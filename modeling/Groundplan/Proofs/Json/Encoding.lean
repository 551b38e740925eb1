import Groundplan.Json.Answer
import Groundplan.Proofs.Text.Bytes

/-!
# Marked bytes

Bytes may show their encoding: by a mark at the start, or by zeros among the first of them, which
sixteen and thirty-two bit units of common letters have. Bytes that show none are read as UTF-8.
Those that do are no JSON when read strictly as UTF-8: they are not valid, or begin with a character
that no JSON text has there.

## Main definitions

* `IsMarked`: bytes that show their encoding

## Main results

* `textOfBytes?_of_not_marked`: what shows no encoding is read as UTF-8
* `decode_of_marked`: **what shows its encoding is no JSON in UTF-8**
-/

namespace Groundplan

namespace Text

/-! ## Strict decoding -/

/-- What has been decoded stands before what is decoded next. -/
theorem decodeFrom_eq (done : List (Option Char)) (bs : List UInt8) :
    decodeFrom done bs = done.reverse ++ decodeFrom [] bs := by
  -- The induction is on the number of bytes, since a character takes up several of them.
  induction h : bs.length using Nat.strongRecOn generalizing done bs with
  | ind n ih =>
    cases bs with
    | nil => simp [decodeFrom]
    | cons b bs =>
      have hlt : bs.length < n := by
        rw [← h]
        exact Nat.lt_succ_self _
      rw [decodeFrom.eq_def done, decodeFrom.eq_def []]
      dsimp only
      cases hlead : leadByte? b.toNat with
      | none =>
        dsimp only
        rw [ih _ hlt (none :: done) bs rfl, ih _ hlt [none] bs rfl]
        simp
      | some lead =>
        obtain ⟨count, low, high, bits⟩ := lead
        dsimp only
        have hrest := continuation_length_le count low high bits bs
        rw [ih _ (Nat.lt_of_le_of_lt hrest hlt) (_ :: done) _ rfl,
          ih _ (Nat.lt_of_le_of_lt hrest hlt) [_] _ rfl]
        simp

theorem utf8Decode?_eq_some {bs : List UInt8} {s : String} (h : utf8Decode? bs = some s) :
    decodeFrom [] bs = s.toList.map some := by
  rw [utf8Decode?] at h
  split at h
  · rename_i hall
    rw [← Option.some.inj h, String.toList_ofList, List.map_map]
    symm
    refine (List.map_congr_left fun c hc => ?_).trans (List.map_id _)
    obtain ⟨c', rfl⟩ := Option.isSome_iff_exists.1 (List.all_eq_true.1 hall c hc)
    rfl
  · cases h

/-- The character at the start of a text is the first of its bytes. -/
theorem toList_of_utf8Decode? {c : Char} {bs : List UInt8} {s : String}
    (h : utf8Decode? (String.utf8EncodeChar c ++ bs) = some s) :
    ∃ t, utf8Decode? bs = some t ∧ s.toList = c :: t.toList := by
  have hs := utf8Decode?_eq_some h
  rw [decodeFrom_encodeChar, decodeFrom_eq, List.reverse_singleton, List.singleton_append] at hs
  obtain ⟨d, cs, hcs, hd, hrest⟩ := List.map_eq_cons_iff.1 hs.symm
  have hall : (decodeFrom [] bs).all Option.isSome = true := by
    rw [← hrest]
    simp
  refine ⟨String.ofList cs, ?_, ?_⟩
  · rw [utf8Decode?, if_pos hall, ← hrest]
    simp [Function.comp_def]
  · rw [hcs, Option.some.inj hd, String.toList_ofList]

/-- A byte of ASCII is the form of a character. -/
theorem utf8EncodeChar_ofNat {b : UInt8} (h : b.toNat < 0x80) :
    String.utf8EncodeChar (Char.ofNat b.toNat) = [b] := by
  have hcode : (Char.ofNat b.toNat).val.toNat = b.toNat := by
    rw [Char.ofNat, dif_pos (.inl (by omega))]
    exact UInt32.toNat_ofNatLT
  rw [String.utf8EncodeChar, hcode, if_pos (by omega), UInt8.ofNat_toNat]

/-- No text has a byte in front that leads nothing, or that is not continued. -/
theorem utf8Decode?_eq_none {b : UInt8} {bs : List UInt8}
    (h : ∀ count low high bits, leadByte? b.toNat = some (count, low, high, bits) →
      (continuation count low high bits bs).1 = false) :
    utf8Decode? (b :: bs) = none := by
  have hnone : none ∈ decodeFrom [] (b :: bs) := by
    rw [decodeFrom.eq_def]
    dsimp only
    split
    · rw [decodeFrom_eq]
      simp
    · rename_i count low high bits hlead
      rw [decodeFrom_eq, if_neg (by rw [h _ _ _ _ hlead]; exact Bool.false_ne_true)]
      simp
  rw [utf8Decode?, if_neg]
  intro hall
  cases List.all_eq_true.1 hall none hnone

/-- A byte that leads nothing. -/
theorem utf8Decode?_of_leadByte?_eq_none {b : UInt8} (bs : List UInt8)
    (h : leadByte? b.toNat = none) : utf8Decode? (b :: bs) = none :=
  utf8Decode?_eq_none fun _ _ _ _ hlead => by rw [h] at hlead; cases hlead

/-- Beyond ASCII a byte that leads a character asks for more, and for none below `0x80`. -/
theorem leadByte?_bounds {b : Nat} {count low high bits : Nat} (hb : 0x80 ≤ b)
    (h : leadByte? b = some (count, low, high, bits)) : 1 ≤ count ∧ 0x80 ≤ low := by
  unfold leadByte? at h
  grind

end Text

namespace Json

open Text

/-! ## Reading -/

/-- A word is no word of JSON if a zero is its second character. -/
theorem readWord?_zero (c : Char) (rest : List Char) : readWord? (c :: '\x00' :: rest) = none := by
  simp [readWord?, words, startsWith]

/-- The characters that no JSON text begins with, of those that marks are read as. -/
def strays : List Char := ['\x00', '\ufeff']

theorem readValue_stray {c : Char} (hc : c ∈ strays) (fuel depth : Nat) (rest : List Char) :
    readValue (fuel + 1) depth (c :: rest) = .error .malformed := by
  simp only [strays, List.mem_cons, List.not_mem_nil, or_false] at hc
  rcases hc with rfl | rfl <;> rfl

theorem skipSpace_stray {c : Char} (hc : c ∈ strays) (rest : List Char) :
    skipSpace (c :: rest) = c :: rest := by
  simp only [strays, List.mem_cons, List.not_mem_nil, or_false] at hc
  rcases hc with rfl | rfl <;> rfl

/-- **No JSON text begins with a stray character.** -/
theorem readChars_stray {c : Char} (hc : c ∈ strays) (rest : List Char) :
    readChars (c :: rest) = .error .malformed := by
  rw [readChars, skipSpace_stray hc, readValue_stray hc]

theorem mem_digits_of_isDigit {c : Char} (h : c.isDigit = true) : c ∈ "0123456789".toList := by
  simp only [Char.isDigit, Bool.and_eq_true, decide_eq_true_eq, UInt32.le_iff_toNat_le] at h
  have h0 : '0'.val.toNat = 48 := rfl
  have h9 : '9'.val.toNat = 57 := rfl
  have hc : c.toNat = c.val.toNat := rfl
  obtain ⟨i, rfl⟩ : ∃ i : Fin 10, c = Char.ofNat (48 + i) := by
    have hback : 48 + (c.toNat - 48) = c.toNat := by omega
    exact ⟨⟨c.toNat - 48, by omega⟩, by simp [hback]⟩
  revert i
  decide

/-- A number before a zero ends there, and if there is none the text is no JSON. -/
theorem readNumber_zero (c : Char) (rest : List Char) :
    readNumber (c :: '\x00' :: rest) = .error .malformed ∨
      ∃ d, readNumber (c :: '\x00' :: rest) = .ok (d, '\x00' :: rest) := by
  by_cases hminus : c = '-'
  · subst hminus
    exact .inl rfl
  by_cases hdigit : c.isDigit = true
  · right
    have hmem := mem_digits_of_isDigit hdigit
    simp only [String.reduceToList, List.mem_cons, List.not_mem_nil, or_false] at hmem
    rcases hmem with rfl | rfl | rfl | rfl | rfl | rfl | rfl | rfl | rfl | rfl <;> exact ⟨_, rfl⟩
  · left
    have hzero : c ≠ '0' := by
      rintro rfl
      exact hdigit rfl
    unfold readNumber
    simp [hminus, hzero, hdigit]

/-- And so does any value of one character. -/
theorem readValue_zero (c : Char) (fuel depth : Nat) (rest : List Char) :
    readValue (fuel + 3) (depth + 1) (c :: '\x00' :: rest) = .error .malformed ∨
      ∃ d, readValue (fuel + 3) (depth + 1) (c :: '\x00' :: rest) = .ok (d, '\x00' :: rest) := by
  by_cases hquote : c = '"'
  · -- a string must not have a zero in it
    subst hquote
    left
    rw [readValue, readString, stringFrom.eq_def]
    rfl
  by_cases hbracket : c = '['
  · subst hbracket
    exact .inl rfl
  by_cases hbrace : c = '\x7b'
  · subst hbrace
    exact .inl rfl
  have hnumber : readValue (fuel + 3) (depth + 1) (c :: '\x00' :: rest) =
      readNumber (c :: '\x00' :: rest) := by
    rw [readValue.eq_def]
    simp [hquote, hbracket, hbrace, readWord?_zero]
  rw [hnumber]
  exact readNumber_zero c rest

/-- **No JSON text has a zero as its second character.** -/
theorem readChars_zero (c : Char) (rest : List Char) :
    readChars (c :: '\x00' :: rest) = .error .malformed := by
  have hstray : '\x00' ∈ strays := by simp [strays]
  rw [readChars]
  -- Behind a blank the zero is the first character of the text, and else it stands behind one.
  by_cases hspace : isSpace c = true
  · have hskip : skipSpace (c :: '\x00' :: rest) = '\x00' :: rest := by
      rw [skipSpace, List.dropWhile_cons_of_pos hspace]
      exact skipSpace_stray hstray rest
    rw [hskip, readValue_stray hstray]
  · have hskip : skipSpace (c :: '\x00' :: rest) = c :: '\x00' :: rest := by
      rw [skipSpace, List.dropWhile_cons_of_neg hspace]
    have hfuel : 2 * (c :: '\x00' :: rest).length + 2 = 2 * rest.length + 3 + 3 := by
      simp only [List.length_cons]
      omega
    rw [hskip, hfuel]
    rcases readValue_zero c (2 * rest.length + 3) 949 rest with h | ⟨d, h⟩
    · rw [maxDepth, h]
    · rw [maxDepth, h]
      dsimp only
      rw [skipSpace_stray hstray]
      rfl

/-! ## Marks -/

/-- **Bytes that show their encoding**: by a mark at the start, or by zeros among the first of
them. -/
def IsMarked (bs : List UInt8) : Prop :=
  [0xef, 0xbb, 0xbf] <+: bs ∨ [0xfe, 0xff] <+: bs ∨ [0xff, 0xfe] <+: bs ∨ (encodingOf bs).1 ≠ 1

instance (bs : List UInt8) : Decidable (IsMarked bs) :=
  inferInstanceAs (Decidable (_ ∨ _ ∨ _ ∨ _))

/-- What shows no encoding is read as UTF-8. -/
theorem textOfBytes?_of_not_marked {bs : List UInt8} (h : ¬ IsMarked bs) :
    textOfBytes? bs = utf8Decode? bs := by
  simp only [IsMarked, not_or, not_not] at h
  obtain ⟨hutf8, hbig, hlittle, hzeros⟩ := h
  unfold textOfBytes?
  -- One case for each mark, and then for the places of zeros.
  split
  · cases hzeros
  · exact absurd (List.prefix_append [0xff, 0xfe] _) hlittle
  · exact absurd (List.prefix_append [0xfe, 0xff] _) hbig
  · exact absurd (List.prefix_append [0xff, 0xfe] _) hlittle
  · exact absurd (List.prefix_append [0xef, 0xbb, 0xbf] _) hutf8
  · split
    · rename_i hencoding
      rw [hencoding] at hzeros
      cases hzeros
    · rename_i hencoding
      rw [hencoding] at hzeros
      cases hzeros
    · rfl

/-- Zeros that show an encoding are among the first two bytes. -/
theorem zero_of_encodingOf {bs : List UInt8} (h : (encodingOf bs).1 ≠ 1) :
    ∃ a b rest, bs = a :: b :: rest ∧ (a = 0 ∨ b = 0) := by
  unfold encodingOf at h
  split at h
  · rename_i a b c d rest
    refine ⟨a, b, c :: d :: rest, rfl, ?_⟩
    by_contra hne
    rw [not_or] at hne
    simp [hne.1, hne.2] at h
  · rename_i a b
    refine ⟨a, b, [], rfl, ?_⟩
    by_contra hne
    rw [not_or] at hne
    simp [hne.1, hne.2] at h
  · exact absurd rfl h

theorem decode_of_malformed {s : String} (h : readChars s.toList = .error .malformed) :
    decode s = .error (.mismatch .json) := by
  rw [decode, read, h]

/-- A text that is encoded as it begins with a stray character is no JSON. -/
theorem decode_stray {c : Char} (hc : c ∈ strays) {bs : List UInt8} {s : String}
    (hs : utf8Decode? (String.utf8EncodeChar c ++ bs) = some s) :
    decode s = .error (.mismatch .json) := by
  obtain ⟨t, -, ht⟩ := toList_of_utf8Decode? hs
  exact decode_of_malformed (ht ▸ readChars_stray hc _)

/-- **What shows its encoding is no JSON in UTF-8.** -/
theorem decode_of_marked {bs : List UInt8} (h : IsMarked bs) {s : String}
    (hs : utf8Decode? bs = some s) : decode s = .error (.mismatch .json) := by
  rcases h with ⟨rest, rfl⟩ | ⟨rest, rfl⟩ | ⟨rest, rfl⟩ | hzeros
  · exact decode_stray (c := '\ufeff') (by simp [strays]) hs
  · rw [List.cons_append, utf8Decode?_of_leadByte?_eq_none _ (by decide)] at hs
    cases hs
  · rw [List.cons_append, utf8Decode?_of_leadByte?_eq_none _ (by decide)] at hs
    cases hs
  · obtain ⟨a, b, rest, rfl, rfl | rfl⟩ := zero_of_encodingOf hzeros
    · exact decode_stray (c := '\x00') (by simp [strays]) hs
    · by_cases ha : a.toNat < 0x80
      · -- a byte of ASCII before a zero: two characters
        have hchar : a :: 0 :: rest = String.utf8EncodeChar (Char.ofNat a.toNat) ++
            (String.utf8EncodeChar '\x00' ++ rest) := by
          rw [utf8EncodeChar_ofNat ha]
          rfl
        rw [hchar] at hs
        obtain ⟨t, ht, hst⟩ := toList_of_utf8Decode? hs
        obtain ⟨u, -, htu⟩ := toList_of_utf8Decode? ht
        refine decode_of_malformed ?_
        rw [hst, htu]
        exact readChars_zero _ _
      · -- beyond, a zero does not continue a character
        have hnone : utf8Decode? (a :: 0 :: rest) = none := by
          refine utf8Decode?_eq_none fun count low high bits hlead => ?_
          obtain ⟨hcount, hlow⟩ := leadByte?_bounds (Nat.not_lt.1 ha) hlead
          obtain ⟨n, rfl⟩ : ∃ n, count = n + 1 := ⟨count - 1, by omega⟩
          rw [continuation, if_neg]
          simp
          omega
        rw [hnone] at hs
        cases hs

end Json

end Groundplan
