import ClassApi.Schema.Classes

/-!
# Domains

A schema is put together from domains. Each domain brings queries, mutations and the types they
need: the classes of a project, the stored files, and the project itself.
-/

namespace ClassApi

/-- A part of a schema. -/
structure Domain where
  /-- The types with their names, in order. -/
  types : List (String × TypeDefinition)
  /-- The fields of the root of queries. -/
  queries : List FieldDefinition
  /-- The fields of the root of mutations. -/
  mutations : List FieldDefinition

namespace Domain

/-- The query for anything with a global id. -/
def nodeField (registry : Registry) : FieldDefinition where
  name := "node"
  type := .named nodeInterface
  description := some "Fetches an object given its ID"
  arguments := [idArgument requiredId]
  resolver := .node registry

/-- The classes of a project; what is written carries the version. -/
def classes (registry : Registry) (version : Int) : Domain where
  types := registry.classes.flatMap ClassInfo.types
  queries := registry.classes.flatMap ClassInfo.queryFields ++ [nodeField registry]
  mutations := registry.classes.flatMap fun c => c.mutationFields version

/-- The object type of files. -/
def fileType : TypeDefinition :=
  .object {
    description := some "Stored binary file"
    fields := [
      .plain "id" (.nonNull (.named "ID")) (.ofFile .id),
      .plain "mongoId" (.nonNull (.named "String")) (.ofFile .storageId),
      .plain "filename" (.nonNull (.named "String")) (.ofFile .filename),
      .plain "contentType" (.named "String") (.ofFile .contentType),
      .plain "length" (.named "Int") (.ofFile .length),
      .plain "createdAt" (.named "String") (.ofFile .createdAt),
      .plain "updatedAt" (.named "String") (.ofFile .updatedAt)]
    interfaces := [nodeInterface] }

/-- The query for a file. -/
def fileField : FieldDefinition where
  name := "file"
  type := .named fileClass
  description := none
  arguments := [idArgument requiredId]
  resolver := .file

/-- The stored files. -/
def files : Domain where
  types := (fileClass, fileType) :: connectionTypes fileClass
  queries := [fileField]
  mutations := []

/-- The name of the type of projects. -/
def projectTypeName : String := "Project"

/-- The name of the type of the classes of a project. -/
def projectClassesTypeName : String := "ProjectClasses"

/-- The object type of projects. -/
def projectType : TypeDefinition :=
  .object {
    description := none
    fields := [
      .plain "id" (.nonNull (.named "ID")) (.ofProject .id),
      .plain "mongoId" (.nonNull (.named "String")) (.ofProject .storageId),
      .plain "name" (.named "String") (.ofProject .name),
      .plain "shortName" (.named "String") (.ofProject .shortName),
      .plain "uniqueName" (.named "String") (.ofProject .uniqueName),
      .plain "hash" (.named "String") (.ofProject .hash),
      .plain "classes" (.named projectClassesTypeName) (.ofProject .classes)]
    interfaces := [] }

/-- The object type of the classes of a project. -/
def projectClassesType : TypeDefinition :=
  .object {
    description := none
    fields := [
      .plain "version" (.nonNull (.named "Int")) (.ofProjectClasses .version),
      .plain "definitions" (.named "MixedType") (.ofProjectClasses .definitions)]
    interfaces := [] }

/-- The project of a request. -/
def project : Domain where
  types := [(projectTypeName, projectType), (projectClassesTypeName, projectClassesType)]
  queries := [.plain "_project" (.named projectTypeName) .project]
  mutations := []

end Domain

end ClassApi
