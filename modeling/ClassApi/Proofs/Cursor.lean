import ClassApi.Ident

/-!
# Cursors

Reading Base64 undoes writing it: digits stand for the values below sixty-four, four digits hold the
bits of three bytes, and padding leaves over nothing but zeros. So a text is written in one way, and
a cursor names one offset, which is read from it again.
-/

namespace ClassApi

namespace Base64

theorem digitValue?_digit {n : Nat} (h : n < 64) : digitValue? (digit n) = some n := by
  have hall : ∀ n : Fin 64, digitValue? (digit n.val) = some n.val := by decide
  exact hall ⟨n, h⟩

/-- Padding is no digit. -/
theorem digit_ne_pad {n : Nat} (h : n < 64) : digit n ≠ '=' := by
  have hall : ∀ n : Fin 64, digit n.val ≠ '=' := by decide
  exact hall ⟨n, h⟩

/-- Four digits that are no padding are read as three bytes. -/
theorem decodeChars_digits {p q r s : Nat} (hp : p < 64) (hq : q < 64) (hr : r < 64) (hs : s < 64)
    (rest : List Char) :
    decodeChars (digit p :: digit q :: digit r :: digit s :: rest) =
      (decodeChars rest).map fun bytes =>
      let n := ((64 * p + q) * 64 + r) * 64 + s
      UInt8.ofNat (n / 65536) :: UInt8.ofNat (n / 256 % 256) :: UInt8.ofNat (n % 256) :: bytes := by
  rw [decodeChars.eq_4 _ _ _ _ _ (fun h _ _ => digit_ne_pad hr h) (fun h _ => digit_ne_pad hs h),
    digitValue?_digit hp, digitValue?_digit hq, digitValue?_digit hr, digitValue?_digit hs]
  cases decodeChars rest with
  | none => rfl
  | some bytes => rfl

/-- Reading undoes writing. -/
theorem decodeChars_encodeChars (bytes : List UInt8) :
    decodeChars (encodeChars bytes) = some bytes := by
  induction bytes using encodeChars.induct with
  | case1 => rfl
  | case2 a =>
    have ha := a.toNat_lt
    have hn : 64 * (a.toNat * 16 / 64) + a.toNat * 16 % 64 = a.toNat * 16 := Nat.div_add_mod _ 64
    simp only [encodeChars]
    rw [decodeChars, digitValue?_digit (by omega), digitValue?_digit (by omega)]
    simp [hn]
  | case3 a b =>
    have ha := a.toNat_lt
    have hb := b.toNat_lt
    have hn :
        (64 * ((a.toNat * 256 + b.toNat) * 4 / 4096) + (a.toNat * 256 + b.toNat) * 4 / 64 % 64) * 64
        + (a.toNat * 256 + b.toNat) * 4 % 64 = (a.toNat * 256 + b.toNat) * 4 := by omega
    have hfirst : (a.toNat * 256 + b.toNat) * 4 / 1024 = a.toNat := by omega
    simp only [encodeChars]
    rw [decodeChars.eq_3 _ _ _ (digit_ne_pad (by omega)), digitValue?_digit (by omega),
      digitValue?_digit (by omega), digitValue?_digit (by omega)]
    simp [hn, hfirst]
  | case4 a b c rest ih =>
    have ha := a.toNat_lt
    have hb := b.toNat_lt
    have hc := c.toNat_lt
    simp only [encodeChars]
    rw [decodeChars_digits (by omega) (by omega) (by omega) (by omega), ih, Option.map_some]
    have hn : ((64 * (((a.toNat * 256 + b.toNat) * 256 + c.toNat) / 262144)
        + ((a.toNat * 256 + b.toNat) * 256 + c.toNat) / 4096 % 64) * 64
        + ((a.toNat * 256 + b.toNat) * 256 + c.toNat) / 64 % 64) * 64
        + ((a.toNat * 256 + b.toNat) * 256 + c.toNat) % 64 =
          (a.toNat * 256 + b.toNat) * 256 + c.toNat := by omega
    have hfirst : ((a.toNat * 256 + b.toNat) * 256 + c.toNat) / 65536 = a.toNat := by omega
    have hsecond : ((a.toNat * 256 + b.toNat) * 256 + c.toNat) / 256 % 256 = b.toNat := by omega
    have hthird : ((a.toNat * 256 + b.toNat) * 256 + c.toNat) % 256 = c.toNat := by omega
    simp only [hn, hfirst, hsecond, hthird, UInt8.ofNat_toNat]

theorem toList_loop (bytes : ByteArray) (i : Nat) (read : List UInt8) :
    ByteArray.toList.loop bytes i read = read.reverse ++ bytes.data.toList.drop i := by
  induction i, read using ByteArray.toList.loop.induct bytes with
  | case1 i read hi ih =>
    have hlist : i < bytes.data.toList.length := hi
    have hget : bytes.get! i = bytes.data.toList[i] := getElem!_pos bytes.data i hi
    rw [ByteArray.toList.loop.eq_def, if_pos hi, ih, List.drop_eq_getElem_cons hlist,
      List.reverse_cons, List.append_assoc, hget]
    rfl
  | case2 i read hi =>
    have hlist : bytes.data.toList.length ≤ i := Nat.le_of_not_lt hi
    rw [ByteArray.toList.loop.eq_def, if_neg hi, List.drop_eq_nil_of_le hlist, List.append_nil]

theorem mk_toList (bytes : ByteArray) : (⟨bytes.toList.toArray⟩ : ByteArray) = bytes := by
  rw [ByteArray.toList, toList_loop]
  rfl

/-- Reading undoes writing. -/
theorem decode_encode (text : String) : decode (encode text) = some text := by
  have hvalid : text.toUTF8.IsValidUTF8 := text.isValidUTF8
  rw [decode, decodeBytes, encode, encodeBytes, String.toList_ofList, decodeChars_encodeChars]
  show String.fromUTF8? ⟨text.toUTF8.toList.toArray⟩ = some text
  rw [mk_toList, String.fromUTF8?, dif_pos hvalid]
  rfl

end Base64

namespace Cursor

/-- A cursor names one offset. -/
theorem ofOffset_injective {m n : Nat} (h : ofOffset m = ofOffset n) : m = n := by
  have htext : tag ++ toString m = tag ++ toString n := by
    have hdecoded := congrArg Base64.decode h
    rw [ofOffset, ofOffset, Base64.decode_encode, Base64.decode_encode] at hdecoded
    exact Option.some.inj hdecoded
  have hdigits : Nat.toDigits 10 m = Nat.toDigits 10 n := by
    have hlist := congrArg String.toList htext
    rw [String.toList_append, String.toList_append, Nat.toString_eq_ofList_toDigits,
      Nat.toString_eq_ofList_toDigits, String.toList_ofList, String.toList_ofList] at hlist
    exact List.append_cancel_left hlist
  have hread : ∀ n, Nat.ofDigitChars 10 (Nat.toDigits 10 n) 0 = n :=
    fun _ => Nat.ofDigitChars_ten_toDigits
  rw [← hread m, hdigits, hread n]

/-! ## Reading a cursor -/

theorem dropTag_append (front rest : List Char) : dropTag front (front ++ rest) = some rest := by
  induction front with
  | nil => rfl
  | cons t ts ih => rw [List.cons_append, dropTag, if_pos rfl, ih]

theorem isDigit_of_mem_toDigits {n : Nat} {c : Char} (h : c ∈ Nat.toDigits 10 n) :
    c.isDigit = true :=
  Nat.isDigit_of_mem_toDigits (by decide) (by decide) h

/-- The digits of a number are read as the number. -/
theorem readNat_toDigits (n : Nat) : readNat (Nat.toDigits 10 n) = some n := by
  have hfold : (Nat.toDigits 10 n).foldl (fun n c => n * 10 + (c.toNat - 48)) 0 = n := by
    have hread := Nat.ofDigitChars_ten_toDigits (n := n)
    simp only [Nat.ofDigitChars, Nat.mul_comm 10] at hread
    exact hread
  have hdigits : (Nat.toDigits 10 n).any (fun c => !c.isDigit) = false := by
    rw [List.any_eq_false]
    intro c hc
    rw [isDigit_of_mem_toDigits hc]
    decide
  have hempty : (Nat.toDigits 10 n).isEmpty = false := by
    rw [List.isEmpty_eq_false_iff]
    exact Nat.toDigits_ne_nil
  rw [readNat, hempty, hdigits, hfold]
  simp

theorem readInt_toDigits {n : Nat} {low high : Int} (hlow : low ≤ n) (hhigh : n ≤ high) :
    readInt low high (Nat.toDigits 10 n) = some n := by
  -- digits begin with no sign, so the text is read as they stand
  have hsign : ∀ c rest, Nat.toDigits 10 n = c :: rest → c.isDigit = true :=
    fun c rest heq => isDigit_of_mem_toDigits (n := n) (heq ▸ List.mem_cons_self)
  rw [readInt, readNat_toDigits]
  · exact if_pos ⟨hlow, hhigh⟩
  · exact fun digits heq => absurd (hsign _ digits heq) (by decide)
  · exact fun digits heq => absurd (hsign _ digits heq) (by decide)

/-- A cursor is read as the offset it was made of, as long as the offset fits in 64 bits with a
sign. -/
theorem offset?_ofOffset {n : Nat} (h : (n : Int) ≤ 9223372036854775807) :
    offset? (ofOffset n) = some (n : Int) := by
  have hlist : (tag ++ toString n).toList = tag.toList ++ Nat.toDigits 10 n := by
    rw [String.toList_append, Nat.toString_eq_ofList_toDigits, String.toList_ofList]
  have hlow : (-9223372036854775808 : Int) ≤ n := by omega
  rw [offset?, ofOffset, Base64.decode_encode]
  show (dropTag tag.toList (tag ++ toString n).toList >>= _) = _
  rw [hlist, dropTag_append]
  exact readInt_toDigits hlow h

end Cursor

end ClassApi
