import ClassApi.Execution.Resolution
import ClassApi.Proofs.Cursor
import ClassApi.Proofs.GivenId
import ClassApi.Proofs.Listing
import ClassApi.Proofs.Registration

/-!
# The forms of an id

An id is written in hexadecimal digits of either case, or as a global id together with the name of
its class. A reader tries the digits first. A global id is longer than the digits, and what it holds
is split at the first colon, so each form is read as the id it was made of. The class in a global id
is looked up without regard to case, so every form leads to the one record.
-/

namespace ClassApi

/-! ## Digits -/

namespace Hex

theorem digitValue?_digit {n : Nat} (h : n < 16) : digitValue? (digit n) = some n := by
  have hall : ∀ n : Fin 16, digitValue? (digit n.val) = some n.val := by decide
  exact hall ⟨n, h⟩

theorem digitValue?_toUpper_digit {n : Nat} (h : n < 16) :
    digitValue? (digit n).toUpper = some n := by
  have hall : ∀ n : Fin 16, digitValue? (digit n.val).toUpper = some n.val := by decide
  exact hall ⟨n, h⟩

/-- Reading undoes writing, also when the digits are written in another way that keeps their
values. -/
theorem decodeChars_map_encodeChars {f : Char → Char}
    (hf : ∀ n < 16, digitValue? (f (digit n)) = some n) (bytes : List UInt8) :
    decodeChars ((encodeChars bytes).map f) = some bytes := by
  induction bytes with
  | nil => rfl
  | cons b rest ih =>
    have hb := b.toNat_lt
    have hn : 16 * (b.toNat / 16) + b.toNat % 16 = b.toNat := Nat.div_add_mod _ 16
    rw [encodeChars, List.map_cons, List.map_cons, decodeChars, hf _ (by omega),
      hf _ (by omega), ih]
    show some (UInt8.ofNat (16 * (b.toNat / 16) + b.toNat % 16) :: rest) = _
    rw [hn, UInt8.ofNat_toNat]

/-- Two digits are read as one byte. -/
theorem length_of_decodeChars {cs : List Char} {bytes : List UInt8}
    (h : decodeChars cs = some bytes) : cs.length = 2 * bytes.length := by
  induction cs using decodeChars.induct generalizing bytes with
  | case1 =>
    cases h
    rfl
  | case2 => cases h
  | case3 high low rest ih =>
    obtain ⟨h', -, h⟩ := Option.bind_eq_some_iff.mp h
    obtain ⟨l, -, h⟩ := Option.bind_eq_some_iff.mp h
    obtain ⟨others, hothers, h⟩ := Option.bind_eq_some_iff.mp h
    cases h
    rw [List.length_cons, List.length_cons, List.length_cons, ih hothers]
    omega

theorem length_encodeChars (bytes : List UInt8) :
    (encodeChars bytes).length = 2 * bytes.length := by
  induction bytes with
  | nil => rfl
  | cons b rest ih =>
    rw [encodeChars, List.length_cons, List.length_cons, List.length_cons, ih]
    omega

end Hex

namespace ObjectId

variable {id : ObjectId}

theorem ofBytes?_bytes (id : ObjectId) : ofBytes? id.bytes = some id :=
  dif_pos id.length_eq

theorem ofHex?_hex (id : ObjectId) : ofHex? id.hex = some id := by
  have hread : Hex.decode id.hex = some id.bytes := by
    have hchars :=
      Hex.decodeChars_map_encodeChars (f := fun c => c)
        (fun _ h => Hex.digitValue?_digit h) id.bytes
    rw [List.map_id'] at hchars
    rw [Hex.decode, hex, Hex.encode, String.toList_ofList, hchars]
  rw [ofHex?, hread]
  exact ofBytes?_bytes id

theorem ofHex?_toUpper_hex (id : ObjectId) : ofHex? id.hex.toUpper = some id := by
  have hread : Hex.decode id.hex.toUpper = some id.bytes := by
    rw [Hex.decode, Naming.toList_toUpper, hex, Hex.encode, String.toList_ofList,
      Hex.decodeChars_map_encodeChars fun _ h => Hex.digitValue?_toUpper_digit h]
  rw [ofHex?, hread]
  exact ofBytes?_bytes id

theorem length_of_ofHex? {text : String} (h : ofHex? text = some id) : text.toList.length = 24 := by
  obtain ⟨bytes, hbytes, h⟩ := Option.bind_eq_some_iff.mp h
  have htwelve : bytes.length = 12 := by
    rw [ofBytes?] at h
    split at h
    · assumption
    · cases h
  rw [Hex.length_of_decodeChars hbytes, htwelve]

theorem parse?_hex (id : ObjectId) : parse? id.hex = some id := by
  rw [parse?, ofHex?_hex]

/-- Digits are read as the id they stand for, although they can be read as Base64, too. -/
theorem ofClient?_of_ofHex? {text : String} (h : ofHex? text = some id) :
    ofClient? text = some id := by
  rw [ofClient?, h]

end ObjectId

/-! ## Global ids -/

namespace Base64

theorem length_encodeChars (bytes : List UInt8) :
    (encodeChars bytes).length = 4 * ((bytes.length + 2) / 3) := by
  induction bytes using encodeChars.induct with
  | case1 => rfl
  | case2 a => simp [encodeChars]
  | case3 a b => simp [encodeChars]
  | case4 a b c rest ih =>
    rw [encodeChars]
    simp only [List.length_cons, ih]
    omega

theorem length_utf8 (text : String) : text.toUTF8.toList.length = text.utf8ByteSize := by
  rw [ByteArray.toList, toList_loop]
  rfl

end Base64

/-- A character takes at least one byte. -/
theorem length_le_utf8ByteSize (cs : List Char) : cs.length ≤ (String.ofList cs).utf8ByteSize := by
  induction cs with
  | nil => exact Nat.zero_le _
  | cons c rest ih =>
    have hsplit : String.ofList (c :: rest) = String.singleton c ++ String.ofList rest := by
      rw [← String.toList_inj]
      simp
    have hc : 0 < c.utf8Size := c.utf8Size_pos
    rw [hsplit, String.utf8ByteSize_append, String.utf8ByteSize_singleton, List.length_cons]
    omega

namespace GlobalId

/-- What stands before the first colon. -/
theorem splitColon_append {front : List Char} (h : ':' ∉ front) (rest : List Char) :
    splitColon (front ++ ':' :: rest) = some (front, rest) := by
  induction front with
  | nil => rfl
  | cons c front ih =>
    obtain ⟨hc, hfront⟩ := List.ne_and_not_mem_of_not_mem_cons h
    rw [List.cons_append, splitColon, if_neg (Ne.symm hc), ih hfront]
    rfl

/-- A global id is read as what it was made of. -/
theorem decode?_encode {typeName : String} (h : ':' ∉ typeName.toList) (id : String) :
    decode? (encode typeName id) = some ⟨typeName, id⟩ := by
  have hlist : (typeName ++ ":" ++ id).toList = typeName.toList ++ ':' :: id.toList := by
    simp
  rw [decode?, encode, Base64.decode_encode]
  show (splitColon (typeName ++ ":" ++ id).toList >>= _) = _
  rw [hlist, splitColon_append h]
  show some (GlobalId.mk (String.ofList typeName.toList) (String.ofList id.toList)) = _
  rw [String.ofList_toList, String.ofList_toList]

/-- A global id is too long to be taken for digits. -/
theorem ofHex?_encode (typeName : String) (id : ObjectId) :
    ObjectId.ofHex? (encode typeName id.hex) = none := by
  cases h : ObjectId.ofHex? (encode typeName id.hex) with
  | none => rfl
  | some other =>
    have hlength := ObjectId.length_of_ofHex? h
    have hhex : 24 ≤ id.hex.utf8ByteSize := by
      have hchars := length_le_utf8ByteSize (Hex.encodeChars id.bytes)
      rw [Hex.length_encodeChars, id.length_eq] at hchars
      exact hchars
    have hcolon : (":" : String).utf8ByteSize = 1 := rfl
    rw [encode, Base64.encode, Base64.encodeBytes, String.toList_ofList, Base64.length_encodeChars,
      Base64.length_utf8, String.utf8ByteSize_append, String.utf8ByteSize_append, hcolon] at hlength
    omega

/-- Where an id may be given, a global id stands for the id in it. -/
theorem ofClient?_encode {typeName : String} (h : ':' ∉ typeName.toList) (id : ObjectId) :
    ObjectId.ofClient? (encode typeName id.hex) = some id := by
  rw [ObjectId.ofClient?, ofHex?_encode, decode?_encode h]
  exact id.parse?_hex

end GlobalId

/-! ## Records -/

namespace Access

open Store

variable {s : Store} {className : String}

/-- A record is found under its id. -/
theorem classById_of_parse (hunique : UniqueIds (s.documents className)) {doc : Document}
    (hdoc : doc ∈ s.documents className) {r : ClassRecord}
    (hr : parse className (some doc) = .ok r) : classById s className r.id = .ok r := by
  obtain ⟨id, hid⟩ := hunique.present doc hdoc
  have hfind := hunique.find?_eq_some_iff.mpr ⟨hdoc, idOf_of_parse hid hr⟩
  rw [classById_eq, hfind, hr]

/-- A record is found under a global id that names its class without regard to the case of ASCII. -/
theorem nodeByGlobalId_encode {definitions : List ClassDefinition} {registry : Registry}
    {c : ClassInfo} (hr : Registry.ofDefinitions definitions = .ok registry)
    (hc : c ∈ registry.classes) (hcolon : ':' ∉ c.name.toList) {r : ClassRecord}
    (hread : classById s c.name r.id = .ok r) {name : String}
    (hname : name.toLower = c.name.toLower) :
    nodeByGlobalId s registry (GlobalId.encode name r.id.hex) = .ok (.ofClass r) := by
  have hfile := Registry.name_ne_fileClass hr hc
  have hsplit : ':' ∉ name.toList := mt (Naming.colon_mem_congr hname).mp hcolon
  rw [nodeByGlobalId, GlobalId.decode?_encode hsplit]
  simp only [Registry.canonicalName?_congr registry hname, Registry.canonicalName?_name hr hc,
    ObjectId.parse?_hex]
  rw [byId, if_neg hfile, hread]
  rfl

end Access

section Agreement

open Store

/-- A resolver other than that of a mutation reads the store and leaves it as it is. -/
theorem Resolver.run_of_read {resolver : Resolver} {context : RequestContext} {s : Store}
    {source : Source} {args : Fields Datum} {value : Option FieldValue}
    (hreads : ∀ kind c version, resolver ≠ .mutation kind c version)
    (h : resolver.read context s source args = .ok value) :
    resolver.run context s source args = (.ok value, s) := by
  cases resolver with
  | mutation kind c version => exact absurd rfl (hreads kind c version)
  | _ => exact congrArg (·, s) h

/-- All forms of the id of a record lead to the record: the global id names its class and its
digits, and also when the class is written in another case, the node with this id is the record with
the type of its class; a lookup by the global id or by the digits in either case gives the record.
In general, where an id may be given, its digits and every global id with it stand for it. -/
theorem id_forms_agree {definitions : List ClassDefinition} {registry : Registry} {c : ClassInfo}
    {s : Store} {doc : Document} {r : ClassRecord}
    (hr : Registry.ofDefinitions definitions = .ok registry) (hc : c ∈ registry.classes)
    (hcolon : ':' ∉ c.name.toList) (hunique : UniqueIds (s.documents c.name))
    (hdoc : doc ∈ s.documents c.name) (hread : Access.parse c.name (some doc) = .ok r) :
    GlobalId.decode? r.globalId = some ⟨c.name, r.id.hex⟩ ∧
    (∀ name context source args, name.toLower = c.name.toLower →
      Fields.get? args "id" = some (.string (GlobalId.encode name r.id.hex)) →
      (Resolver.node registry).run context s source args =
        (.ok (some (.typed c.name (.record r))), s)) ∧
    (∀ text context source args, text ∈ [r.globalId, r.id.hex, r.id.hex.toUpper] →
      Fields.get? args "id" = some (.string text) →
      (Resolver.single c).run context s source args = (.ok (some (.object (.record r))), s)) ∧
    ∀ id : ObjectId, ObjectId.ofClient? id.hex = some id ∧
      ObjectId.ofClient? id.hex.toUpper = some id ∧
      ∀ typeName, ':' ∉ typeName.toList →
        ObjectId.ofClient? (GlobalId.encode typeName id.hex) = some id := by
  have hclass : r.className = c.name := by
    obtain ⟨stored, -, -, rfl⟩ := Access.parse_ok hread
    rfl
  have hglobal : r.globalId = GlobalId.encode c.name r.id.hex := by
    rw [ClassRecord.globalId, hclass]
  have hfound := Access.classById_of_parse hunique hdoc hread
  have hforms : ∀ id : ObjectId, ObjectId.ofClient? id.hex = some id ∧
      ObjectId.ofClient? id.hex.toUpper = some id ∧
      ∀ typeName, ':' ∉ typeName.toList →
        ObjectId.ofClient? (GlobalId.encode typeName id.hex) = some id :=
    fun id => ⟨ObjectId.ofClient?_of_ofHex? id.ofHex?_hex,
      ObjectId.ofClient?_of_ofHex? id.ofHex?_toUpper_hex, fun typeName h =>
        GlobalId.ofClient?_encode h id⟩
  refine ⟨?_, ?_, ?_, hforms⟩
  · rw [hglobal, GlobalId.decode?_encode hcolon]
  · intro name context source args hname hid
    have hnode := Access.nodeByGlobalId_encode hr hc hcolon hfound hname
    refine Resolver.run_of_read (fun _ _ _ h => by cases h) ?_
    rw [Resolver.read, idText, hid, ← hclass]
    show (Access.nodeByGlobalId s registry _ >>= _) = _
    rw [hnode]
    rfl
  · intro text context source args htext hid
    have hclient : ObjectId.ofClient? text = some r.id := by
      obtain ⟨hhex, hupper, hencoded⟩ := hforms r.id
      simp only [List.mem_cons, List.not_mem_nil, or_false] at htext
      rcases htext with rfl | rfl | rfl
      · rw [hglobal, hencoded c.name hcolon]
      · exact hhex
      · exact hupper
    have hsingle : Listing.single s c args = .ok r := by
      rw [Listing.single, hid]
      show (clientId text >>= _) = _
      rw [clientId, hclient]
      exact hfound
    refine Resolver.run_of_read (fun _ _ _ h => by cases h) ?_
    rw [Resolver.read, hsingle]
    rfl

/-- A user is found under an id with a letter, in capital letters and behind the name of the class
in capital letters. -/
theorem id_forms_agree_user :
    Registry.ofDefinitions Sample.definitions = .ok ⟨[Sample.user]⟩ ∧
    ':' ∉ Sample.user.name.toList ∧
    UniqueIds ((Sample.seeded 171).documents "User") ∧
    ∃ doc ∈ (Sample.seeded 171).documents "User", ∃ r, Access.parse "User" (some doc) = .ok r ∧
      ∀ context source,
        (Resolver.node ⟨[Sample.user]⟩).run context (Sample.seeded 171) source
          [("id", .string (GlobalId.encode "USER" "0000000000000000ab000001"))] =
            (.ok (some (.typed "User" (.record r))), Sample.seeded 171) ∧
        (Resolver.single Sample.user).run context (Sample.seeded 171) source
          [("id", .string "0000000000000000AB000001")] =
            (.ok (some (.object (.record r))), Sample.seeded 171) := by
  have hcolon : ':' ∉ Sample.user.name.toList := by decide
  have hpresent : ∀ doc ∈ (Sample.seeded 171).documents "User", (idOf doc).isSome = true := by
    decide
  have hunique : UniqueIds ((Sample.seeded 171).documents "User") :=
    ⟨fun doc hdoc => Option.isSome_iff_exists.mp (hpresent doc hdoc), by decide⟩
  have hread : ∀ doc ∈ (Sample.seeded 171).documents "User",
      (Access.parse "User" (some doc)).toOption.map (fun r => r.id.hex) =
          some "0000000000000000ab000001" := by
    decide
  have hlength : (Sample.seeded 171).documents "User" ≠ [] := by decide
  obtain ⟨doc, hdoc⟩ := List.exists_mem_of_ne_nil _ hlength
  cases hparse : Access.parse "User" (some doc) with
  | error e =>
    have hsome := hread doc hdoc
    rw [hparse] at hsome
    cases hsome
  | ok r =>
    have hhex : r.id.hex = "0000000000000000ab000001" := by
      have hsome := hread doc hdoc
      rw [hparse] at hsome
      exact Option.some.inj hsome
    have hgiven : ∀ text, Fields.get? [("id", Datum.string text)] "id" = some (.string text) :=
      fun _ => rfl
    have hname : "USER".toLower = Sample.user.name.toLower := by
      rw [← String.toList_inj, Naming.toList_toLower, Naming.toList_toLower]
      decide
    have hupper : "0000000000000000AB000001" = r.id.hex.toUpper := by
      rw [hhex, ← String.toList_inj, Naming.toList_toUpper]
      decide
    obtain ⟨-, hnode, hsingle, -⟩ := id_forms_agree (c := Sample.user) (s := Sample.seeded 171)
      Sample.definitions_accepted List.mem_cons_self hcolon hunique hdoc hparse
    refine ⟨Sample.definitions_accepted, hcolon, hunique, doc, hdoc, r, hparse,
      fun context source => ⟨?_, ?_⟩⟩
    · rw [← hhex]
      exact hnode "USER" context source _ hname (hgiven _)
    · rw [hupper]
      exact hsingle _ context source _ (by simp) (hgiven _)

end Agreement

end ClassApi
