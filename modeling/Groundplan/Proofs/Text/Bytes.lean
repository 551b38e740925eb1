import Groundplan.Text.Bytes
import Mathlib.Data.List.Basic

/-!
# Texts as bytes and back

The UTF-8 form of a text decodes to the text, and the hexadecimal form of bytes to the bytes.

## Main results

* `decodeFrom_encodeChar`: the bytes of one character are read as this character
* `utf8Replace_append`: **what stands in front of a text does not change how it is read**, if the
  text begins with an ASCII character
* `utf8Decode?_utf8Bytes`: **what is encoded is decoded again**
* `hexBytes?_hexText`: the same of hexadecimal digits
* `hexBytes?_eq_some_iff`: **what is read of hexadecimal digits is what they spell**
-/

namespace Groundplan.Text

/-! ## UTF-8 -/

theorem toList_loop (bs : ByteArray) (i : Nat) (done : List UInt8) :
    ByteArray.toList.loop bs i done = done.reverse ++ bs.data.toList.drop i := by
  have hlength : bs.data.toList.length = bs.size := by simp
  -- Induction on the number of bytes that are left.
  induction h : bs.size - i generalizing i done with
  | zero =>
    rw [ByteArray.toList.loop, if_neg (by omega), List.drop_eq_nil_of_le (by omega),
      List.append_nil]
  | succ n ih =>
    have hi : i < bs.data.toList.length := by omega
    have hget : bs.get! i = bs.data.toList[i] := by
      rw [ByteArray.get!, getElem!_pos]
      rfl
    rw [ByteArray.toList.loop, if_pos (by omega), ih (i + 1) _ (by omega), hget,
      List.reverse_cons, List.append_assoc, List.drop_eq_getElem_cons hi, List.singleton_append]

/-- The UTF-8 form of a text is that of its characters. -/
theorem utf8Bytes_eq (s : String) : utf8Bytes s = s.toList.flatMap String.utf8EncodeChar := by
  rw [utf8Bytes, ByteArray.toList, toList_loop, List.reverse_nil, List.nil_append, List.drop_zero,
    String.toUTF8_eq_toByteArray, ← String.utf8Encode_toList, List.utf8Encode,
    List.toList_data_toByteArray]

/-! ## Leading bytes -/

variable {b : Nat}

theorem leadByte?_one (h : b < 0x80) : leadByte? b = some (0, 0, 0, b) := by
  rw [leadByte?, if_pos h]

theorem leadByte?_two (h : 0xc2 ≤ b) (h' : b < 0xe0) :
    leadByte? b = some (1, 0x80, 0xbf, b - 0xc0) := by
  rw [leadByte?, if_neg (by omega), if_neg (by omega), if_pos h']

/-- Of three bytes, the second has bounds that depend on the first. -/
theorem leadByte?_three {n c : Nat} (h : n < 16) (hc : c < 64) (hlow : n = 0 → 0x20 ≤ c)
    (hhigh : n = 13 → c < 0x20) :
    ∃ low high, leadByte? (n + 0xe0) = some (2, low, high, n) ∧ low ≤ c + 0x80 ∧
      c + 0x80 ≤ high := by
  rw [leadByte?, if_neg (by omega), if_neg (by omega), if_neg (by omega)]
  by_cases h0 : n = 0
  · -- nothing that fits into two bytes is written in three
    subst h0
    exact ⟨0xa0, 0xbf, rfl, by omega, by omega⟩
  by_cases h13 : n = 13
  · -- no surrogates
    subst h13
    exact ⟨0x80, 0x9f, rfl, by omega, by omega⟩
  · refine ⟨0x80, 0xbf, ?_, by omega, by omega⟩
    rw [if_neg (by simpa using h0), if_neg (by simpa using h13), if_pos (by omega),
      Nat.add_sub_cancel]

/-- And so of four. -/
theorem leadByte?_four {n c : Nat} (h : n < 5) (hc : c < 64) (hlow : n = 0 → 0x10 ≤ c)
    (hhigh : n = 4 → c < 0x10) :
    ∃ low high, leadByte? (n + 0xf0) = some (3, low, high, n) ∧ low ≤ c + 0x80 ∧
      c + 0x80 ≤ high := by
  rw [leadByte?, if_neg (by omega), if_neg (by omega), if_neg (by omega), if_neg (by simp),
    if_neg (by simp), if_neg (by omega)]
  by_cases h0 : n = 0
  · -- nothing that fits into three bytes is written in four
    subst h0
    exact ⟨0x90, 0xbf, rfl, by omega, by omega⟩
  by_cases h4 : n = 4
  · -- nothing beyond the last character
    subst h4
    exact ⟨0x80, 0x8f, rfl, by omega, by omega⟩
  · refine ⟨0x80, 0xbf, ?_, by omega, by omega⟩
    rw [if_neg (by simpa using h0), if_pos (by omega), Nat.add_sub_cancel]

/-! ## Characters -/

theorem toNat_ofNat_byte {n : Nat} (h : n < 256) : (UInt8.ofNat n).toNat = n := by
  rw [UInt8.toNat_ofNat']
  omega

/-- A byte that continues a character. -/
theorem continuation_cons {count low high acc c : Nat} (bs : List UInt8) (hc : c < 64)
    (hlow : low ≤ c + 0x80) (hhigh : c + 0x80 ≤ high) :
    continuation (count + 1) low high acc (UInt8.ofNat (c + 0x80) :: bs) =
      continuation count 0x80 0xbf (acc * 64 + c) bs := by
  rw [continuation, toNat_ofNat_byte (by omega), if_pos (by simp [hlow, hhigh]),
    Nat.add_sub_cancel]

/-- A leading byte and what continues it are read as one character. -/
theorem decodeFrom_lead {n count low high bits code : Nat} (done : List (Option Char))
    {bs rest : List UInt8} (hn : n < 256) (hlead : leadByte? n = some (count, low, high, bits))
    (hrest : continuation count low high bits bs = (true, code, rest)) :
    decodeFrom done (UInt8.ofNat n :: bs) = decodeFrom (some (Char.ofNat code) :: done) rest := by
  rw [decodeFrom.eq_def]
  dsimp only
  rw [toNat_ofNat_byte hn, hlead]
  dsimp only
  rw [hrest]
  rfl

/-- **The bytes of one character are read as this character.** -/
theorem decodeFrom_encodeChar (done : List (Option Char)) (c : Char) (bs : List UInt8) :
    decodeFrom done (String.utf8EncodeChar c ++ bs) = decodeFrom (some c :: done) bs := by
  have hvalid : c.toNat < 0xd800 ∨ 0xdfff < c.toNat ∧ c.toNat < 0x110000 := c.valid
  have hself : Char.ofNat c.toNat = c := Char.ofNat_toNat c
  rw [String.utf8EncodeChar]
  simp only [show c.val.toNat = c.toNat from rfl]
  generalize c.toNat = v at hvalid hself
  subst hself
  -- One case for each number of bytes; the bits of `v` are put together again in base 64.
  split
  · exact decodeFrom_lead done (by omega) (leadByte?_one (by omega)) rfl
  split
  · rw [List.cons_append, List.singleton_append]
    refine decodeFrom_lead done (by omega) (leadByte?_two (by omega) (by omega)) ?_
    rw [continuation_cons bs (by omega) (by omega) (by omega), continuation]
    congr 2
    omega
  split
  · -- Surrogates are no characters, which is the bound on the second of three bytes.
    obtain ⟨low, high, hlead, hlow, hhigh⟩ := @leadByte?_three (v / 4096 % 16) (v / 64 % 64)
      (by omega) (by omega) (by omega) (by omega)
    rw [List.cons_append, List.cons_append, List.singleton_append]
    refine decodeFrom_lead done (by omega) hlead ?_
    rw [continuation_cons _ (by omega) hlow hhigh,
      continuation_cons bs (by omega) (by omega) (by omega), continuation]
    congr 2
    omega
  · obtain ⟨low, high, hlead, hlow, hhigh⟩ := @leadByte?_four (v / 262144 % 8) (v / 4096 % 64)
      (by omega) (by omega) (by omega) (by omega)
    rw [List.cons_append, List.cons_append, List.cons_append, List.singleton_append]
    refine decodeFrom_lead done (by omega) hlead ?_
    rw [continuation_cons _ (by omega) hlow hhigh,
      continuation_cons _ (by omega) (by omega) (by omega),
      continuation_cons bs (by omega) (by omega) (by omega), continuation]
    congr 2
    omega

theorem decodeFrom_eq_append (done : List (Option Char)) (bs : List UInt8) :
    decodeFrom done bs = done.reverse ++ decodeFrom [] bs := by
  -- Induction on the number of bytes, of which each step takes one at least.
  induction h : bs.length using Nat.strongRecOn generalizing done bs with
  | ind n ih =>
    cases bs with
    | nil => simp [decodeFrom]
    | cons b bs =>
      subst h
      rw [decodeFrom.eq_def done, decodeFrom.eq_def []]
      dsimp only
      cases leadByte? b.toNat with
      | none =>
        dsimp only
        rw [ih bs.length (by simp) (none :: done) bs rfl, ih bs.length (by simp) [none] bs rfl]
        simp
      | some lead =>
        obtain ⟨count, low, high, bits⟩ := lead
        have hlength := continuation_length_le count low high bits bs
        have hless : (continuation count low high bits bs).2.2.length < (b :: bs).length := by
          simp only [List.length_cons]
          omega
        dsimp only
        rw [ih _ hless (_ :: done) _ rfl, ih _ hless [_] _ rfl]
        simp

/-- The bytes of characters are read as these, whatever follows. -/
theorem decodeFrom_encode (done : List (Option Char)) (cs : List Char) (bs : List UInt8) :
    decodeFrom done (cs.flatMap String.utf8EncodeChar ++ bs) =
      done.reverse ++ cs.map some ++ decodeFrom [] bs := by
  induction cs generalizing done with
  | nil => simpa using decodeFrom_eq_append done bs
  | cons c cs ih => rw [List.flatMap_cons, List.append_assoc, decodeFrom_encodeChar, ih]; simp

/-- **What is encoded is decoded again.** -/
theorem utf8Decode?_utf8Bytes (s : String) : utf8Decode? (utf8Bytes s) = some s := by
  rw [utf8Decode?, utf8Bytes_eq, ← List.append_nil (List.flatMap _ _), decodeFrom_encode]
  simp [decodeFrom, Function.comp_def]

/-! ## Bytes in front of a text -/

/-- Bytes that continue a character are no ASCII characters. -/
theorem leadByte?_low {count low high bits : Nat}
    (h : leadByte? b = some (count, low, high, bits)) :
    count = 0 ∨ 0x80 ≤ low := by
  rw [leadByte?] at h
  split_ifs at h <;> simp only [Option.some.injEq, Prod.mk.injEq] at h <;> omega

/-- An ASCII character ends what could have continued. -/
theorem continuation_append {count low high : Nat} (hlow : count = 0 ∨ 0x80 ≤ low) (acc : Nat)
    (bs : List UInt8) {b : UInt8} (hb : b.toNat < 0x80) (cs : List UInt8) :
    continuation count low high acc (bs ++ b :: cs) =
      ((continuation count low high acc bs).1, (continuation count low high acc bs).2.1,
        (continuation count low high acc bs).2.2 ++ b :: cs) := by
  fun_induction continuation count low high acc bs with
  | case1 => rw [continuation]
  | case2 count low high acc =>
    have hless : ¬ (low ≤ b.toNat && b.toNat ≤ high) = true := by
      simp only [Bool.and_eq_true, decide_eq_true_eq, not_and]
      omega
    rw [List.nil_append, continuation, if_neg hless]
  | case3 count low high acc d bs h ih =>
    rw [List.cons_append, continuation, if_pos h]
    exact ih (.inr (Nat.le_refl _))
  | case4 count low high acc d bs h =>
    rw [List.cons_append, continuation, if_neg h]

/-- What stands in front of an ASCII character is decoded by itself, and so is what follows. -/
theorem decodeFrom_append (done : List (Option Char)) (bs : List UInt8) {b : UInt8}
    (hb : b.toNat < 0x80) (cs : List UInt8) :
    decodeFrom done (bs ++ b :: cs) = decodeFrom done bs ++ decodeFrom [] (b :: cs) := by
  fun_induction decodeFrom done bs with
  | case1 done => exact decodeFrom_eq_append done (b :: cs)
  | case2 done d bs hlead ih =>
    rw [List.cons_append, decodeFrom.eq_def]
    dsimp only
    rw [hlead]
    exact ih
  | case3 done d bs count low high bits hlead r ih =>
    rw [List.cons_append, decodeFrom.eq_def]
    dsimp only
    rw [hlead]
    dsimp only
    rw [continuation_append (leadByte?_low hlead) bits bs hb cs]
    exact ih

/-- **What stands in front of a text that begins with an ASCII character** does not change how the
text is read. -/
theorem utf8Replace_append (bs : List UInt8) {b : UInt8} (hb : b.toNat < 0x80) (cs : List UInt8) :
    (utf8Replace (bs ++ b :: cs)).toList =
      (utf8Replace bs).toList ++ (utf8Replace (b :: cs)).toList := by
  simp only [utf8Replace, decodeFrom_append [] bs hb cs, List.map_append, String.toList_ofList]

/-- A text is read as itself, whatever follows. -/
theorem utf8Replace_utf8Bytes_append (s : String) (bs : List UInt8) :
    (utf8Replace (utf8Bytes s ++ bs)).toList = s.toList ++ (utf8Replace bs).toList := by
  rw [utf8Replace, utf8Bytes_eq, decodeFrom_encode, utf8Replace]
  simp [Function.comp_def]

/-! ## Hexadecimal -/

/-- The digits of a byte are hexadecimal digits, and no blanks. -/
theorem hexValue?_hexDigit {n : Nat} (h : n < 16) :
    hexValue? (hexDigit n) = some n ∧ isAsciiBlank (hexDigit n) = false ∧ hexDigit n ≠ ':' := by
  revert n
  decide

theorem hexBytesFrom_hexText (done bs : List UInt8) :
    hexBytesFrom done (hexText bs) = some (done.reverse ++ bs) := by
  induction bs generalizing done with
  | nil => simp [hexText, hexBytesFrom]
  | cons b bs ih =>
    have hb : b.toNat < 256 := b.toNat_lt
    -- The two digits of the first byte, which put together give the byte.
    obtain ⟨hvalue, hblank, -⟩ := hexValue?_hexDigit (show b.toNat / 16 < 16 by omega)
    obtain ⟨hvalue', -, -⟩ := hexValue?_hexDigit (show b.toNat % 16 < 16 by omega)
    have hself : UInt8.ofNat (16 * (b.toNat / 16) + b.toNat % 16) = b := by
      rw [Nat.div_add_mod, UInt8.ofNat_toNat]
    rw [hexText, List.flatMap_cons, byteDigits]
    show hexBytesFrom done (_ :: _ :: hexText bs) = _
    rw [hexBytesFrom, hblank, hvalue, hvalue']
    simp only [Bool.false_eq_true, if_false, hself, ih]
    simp

/-- **What is written in hexadecimal is read again.** -/
theorem hexBytes?_hexText (bs : List UInt8) : hexBytes? (hexText bs) = some bs :=
  hexBytesFrom_hexText [] bs

theorem colon_notMem_hexText (bs : List UInt8) : ∀ c ∈ hexText bs, (c == ':') = false := by
  intro c hc
  obtain ⟨b, -, hc⟩ := List.mem_flatMap.1 hc
  have hb : b.toNat < 256 := b.toNat_lt
  rcases List.mem_pair.1 hc with rfl | rfl
  · simpa using (hexValue?_hexDigit (show b.toNat / 16 < 16 by omega)).2.2
  · simpa using (hexValue?_hexDigit (show b.toNat % 16 < 16 by omega)).2.2

/-- The digits in which bytes are written: no capitals. -/
def IsLowerHex (c : Char) : Prop :=
  c.isDigit = true ∨ 'a' ≤ c ∧ c ≤ 'f'

theorem isLowerHex_hexDigit {n : Nat} (h : n < 16) : IsLowerHex (hexDigit n) := by
  rw [IsLowerHex]
  revert n
  decide

theorem isLowerHex_hexText (bs : List UInt8) : ∀ c ∈ hexText bs, IsLowerHex c := by
  intro c hc
  obtain ⟨b, -, hc⟩ := List.mem_flatMap.1 hc
  have hb : b.toNat < 256 := b.toNat_lt
  rcases List.mem_pair.1 hc with rfl | rfl
  · exact isLowerHex_hexDigit (by omega)
  · exact isLowerHex_hexDigit (by omega)

/-- **A hexadecimal spelling of bytes**: two digits of either case for each of them, and blanks
anywhere but inside a pair. -/
inductive Spells : List Char → List UInt8 → Prop where
  | nil : Spells [] []
  | blank {c : Char} {cs : List Char} {bs : List UInt8} (hblank : isAsciiBlank c = true)
      (hrest : Spells cs bs) : Spells (c :: cs) bs
  | byte {c d : Char} {a b : Nat} {cs : List Char} {bs : List UInt8} (hhigh : hexValue? c = some a)
      (hlow : hexValue? d = some b) (hrest : Spells cs bs) :
      Spells (c :: d :: cs) (UInt8.ofNat (16 * a + b) :: bs)

theorem toNat_le_of_isAsciiBlank {c : Char} (h : isAsciiBlank c = true) : c.toNat ≤ 32 := by
  rcases Bool.or_eq_true_iff.1 h with h | h
  · rw [beq_iff_eq.1 h]
    decide
  · rw [Bool.and_eq_true, decide_eq_true_eq, decide_eq_true_eq] at h
    omega

theorem hexValue?_of_isAsciiBlank {c : Char} (h : isAsciiBlank c = true) : hexValue? c = none := by
  have hnone : ∀ n : Fin 33, hexValue? (Char.ofNat n) = none := by decide
  have hle := toNat_le_of_isAsciiBlank h
  rw [← Char.ofNat_toNat c]
  exact hnone ⟨c.toNat, by omega⟩

theorem Spells.isAsciiBlank_or {cs : List Char} {bs : List UInt8} (h : Spells cs bs) :
    ∀ c ∈ cs, isAsciiBlank c = true ∨ (hexValue? c).isSome = true := by
  induction h with
  | nil => simp
  | blank hblank hrest ih => exact List.forall_mem_cons.2 ⟨.inl hblank, ih⟩
  | byte hhigh hlow hrest ih =>
    refine List.forall_mem_cons.2 ⟨.inr ?_, List.forall_mem_cons.2 ⟨.inr ?_, ih⟩⟩
    · rw [hhigh, Option.isSome_some]
    · rw [hlow, Option.isSome_some]

theorem Spells.colon_notMem {cs : List Char} {bs : List UInt8} (h : Spells cs bs) : ':' ∉ cs :=
  fun hmem => absurd (h.isAsciiBlank_or _ hmem) (by decide)

theorem hexBytesFrom_of_spells {cs : List Char} {bs : List UInt8} (h : Spells cs bs)
    (done : List UInt8) : hexBytesFrom done cs = some (done.reverse ++ bs) := by
  induction h generalizing done with
  | nil => rw [hexBytesFrom, List.append_nil]
  | @blank c cs bs hblank hrest ih =>
    cases cs with
    | nil =>
      cases hrest
      rw [hexBytesFrom, if_pos hblank, List.append_nil]
    | cons d cs => rw [hexBytesFrom, if_pos hblank, ih]
  | @byte c d a b cs bs hhigh hlow hrest ih =>
    -- A digit is no blank.
    have hblank : ¬ isAsciiBlank c = true := by
      intro hblank
      rw [hexValue?_of_isAsciiBlank hblank] at hhigh
      cases hhigh
    rw [hexBytesFrom, if_neg hblank, hhigh, hlow]
    dsimp only
    rw [ih, List.reverse_cons, List.append_assoc, List.singleton_append]

theorem spells_of_hexBytesFrom (done : List UInt8) (cs : List Char) {bs : List UInt8}
    (h : hexBytesFrom done cs = some bs) : ∃ read, Spells cs read ∧ bs = done.reverse ++ read := by
  fun_induction hexBytesFrom done cs with
  | case1 done =>
    cases h
    exact ⟨[], .nil, (List.append_nil _).symm⟩
  | case2 done c hblank =>
    cases h
    exact ⟨[], .blank hblank .nil, (List.append_nil _).symm⟩
  | case3 => cases h
  | case4 done c d rest hblank ih =>
    obtain ⟨read, hread, hbs⟩ := ih h
    exact ⟨read, .blank hblank hread, hbs⟩
  | case5 done c d rest hblank a b hlow hhigh ih =>
    obtain ⟨read, hread, hbs⟩ := ih h
    refine ⟨_ :: read, .byte hhigh hlow hread, ?_⟩
    rw [hbs, List.reverse_cons, List.append_assoc, List.singleton_append]
  | case6 => cases h

/-- **The bytes that are read are those that the text spells.** -/
theorem hexBytes?_eq_some_iff {cs : List Char} {bs : List UInt8} :
    hexBytes? cs = some bs ↔ Spells cs bs := by
  constructor
  · intro h
    obtain ⟨read, hread, rfl⟩ := spells_of_hexBytesFrom [] cs h
    exact hread
  · intro h
    exact hexBytesFrom_of_spells h []

end Groundplan.Text
