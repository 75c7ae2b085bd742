import ParamFile.Proofs.Cipher
import ParamFile.Proofs.Loaded

/-!
# Ciphertexts in one form only

What opens to a key and a plaintext is, but for white space around it, the ciphertext that is made of
them (`Cipher.opened_eq_ok`). The parts, each the way back of what `Proofs.Cipher` says:

* `Base64.encode_of_decode`: base64 is read from nothing but what is written. A full group has four
  symbols (`encode_bytesOf`); what is read of the last group is all of it (`LastGroup.Reads`), and only
  groups completed to four symbols without stray bits give bytes (`LastGroup.encode_of_bytes`).
* `Utf8.encode_of_decode`: a text is decoded from its own bytes only.
* `eq_of_splitAtSeparator?`: the key ends at the first separator.
-/

namespace ParamFile.Text.Base64

/-! ## Symbols -/

theorem symbol_of_value? {b : UInt8} {v : Nat} (h : value? b = some v) : v < 64 ∧ symbol v = b := by
  unfold value? at h
  unfold symbol
  simp only at h
  split at h
  · rename_i upper
    cases h
    rw [if_pos (by omega)]
    exact ⟨by omega, toNat_ofNat_eq (by omega)⟩
  · split at h
    · rename_i lower
      cases h
      rw [if_neg (by omega), if_pos (by omega)]
      exact ⟨by omega, toNat_ofNat_eq (by omega)⟩
    · split at h
      · rename_i digit
        cases h
        rw [if_neg (by omega), if_neg (by omega), if_pos (by omega)]
        exact ⟨by omega, toNat_ofNat_eq (by omega)⟩
      · split at h
        · rename_i plus
          cases h
          exact ⟨by decide, UInt8.toNat_inj.1 plus.symm⟩
        · split at h
          · rename_i slash
            cases h
            exact ⟨by decide, UInt8.toNat_inj.1 slash.symm⟩
          · cases h

theorem symbol_of_valueAt {b : UInt8} {index v : Nat} (h : valueAt b index = .ok v) :
    v < 64 ∧ symbol v = b := by
  unfold valueAt at h
  split at h
  · cases h
    exact symbol_of_value? ‹_›
  · cases h

/-! ## Groups -/

section
variable {w x y z : Nat} (hw : w < 64) (hx : x < 64)
include hw hx

/-- Three bytes made of four values are written as the symbols of these values. -/
theorem encode_bytesOf (hy : y < 64) (hz : z < 64) (rest : List UInt8) :
    encode (bytesOf w x y z ++ rest) =
      symbol w :: symbol x :: symbol y :: symbol z :: encode rest := by
  have first : (w * 4 + x / 16) % 256 / 4 = w := by omega
  have second : (w * 4 + x / 16) % 256 % 4 * 16 + (x % 16 * 16 + y / 4) % 256 / 16 = x := by omega
  have third : (x % 16 * 16 + y / 4) % 256 % 16 * 4 + (y % 4 * 64 + z) % 256 / 64 = y := by omega
  have fourth : (y % 4 * 64 + z) % 256 % 64 = z := by omega
  simp only [bytesOf, List.cons_append, List.nil_append, encode, UInt8.toNat_ofNat', first, second,
    third, fourth]

/-- Two bytes made of three values, the last of which has no bits left over. -/
theorem encode_take_two (hy : y < 64) (none : y % 4 = 0) :
    encode ((bytesOf w x y 0).take 2) = [symbol w, symbol x, symbol y, pad] := by
  have first : (w * 4 + x / 16) % 256 / 4 = w := by omega
  have second : (w * 4 + x / 16) % 256 % 4 * 16 + (x % 16 * 16 + y / 4) % 256 / 16 = x := by omega
  have third : (x % 16 * 16 + y / 4) % 256 % 16 * 4 = y := by omega
  simp only [bytesOf, List.take_succ_cons, List.take_zero, encode, UInt8.toNat_ofNat', first, second,
    third]

/-- One byte made of two values, the last of which has no bits left over. -/
theorem encode_take_one (none : x % 16 = 0) :
    encode ((bytesOf w x 0 0).take 1) = [symbol w, symbol x, pad, pad] := by
  have first : (w * 4 + x / 16) % 256 / 4 = w := by omega
  have second : (w * 4 + x / 16) % 256 % 4 * 16 = x := by omega
  simp only [bytesOf, List.take_succ_cons, List.take_zero, encode, UInt8.toNat_ofNat', first, second]

end

/-! ## The last group -/

/-- The group is what these bytes say: symbols with their values, and padding behind them. -/
structure LastGroup.Reads (g : LastGroup) (input : List UInt8) : Prop where
  bytes : g.symbols.map (·.1) ++ List.replicate g.pads pad = input
  values : ∀ e ∈ g.symbols, e.2 < 64 ∧ symbol e.2 = e.1

theorem LastGroup.Reads.lastGroup {start seen : Nat} {input rest : List UInt8} {g g' : LastGroup}
    (reads : g.Reads input) (h : Base64.lastGroup start rest seen g = .ok g') :
    g'.Reads (input ++ rest) := by
  induction rest generalizing input seen g with
  | nil =>
    cases h
    rwa [List.append_nil]
  | cons b rest ih =>
    have behind : input ++ b :: rest = (input ++ [b]) ++ rest := by simp
    rw [behind]
    unfold Base64.lastGroup at h
    split at h
    · rename_i padding
      split at h
      · cases h
      · have padded : LastGroup.Reads { g with pads := g.pads + 1 } (input ++ [b]) := by
          refine ⟨?_, reads.values⟩
          rw [List.replicate_succ', ← List.append_assoc, reads.bytes, padding]
        exact ih padded h
    · split at h
      · cases h
      · rename_i unpadded
        have none : g.pads = 0 := by omega
        cases hv : valueAt b (start + seen) with
        | error e =>
          rw [hv] at h
          cases h
        | ok v =>
          rw [hv] at h
          refine ih ⟨?_, fun e he => ?_⟩ h
          · have bytes := reads.bytes
            rw [none, List.replicate_zero, List.append_nil] at bytes
            simp [none, bytes]
          · rcases List.mem_append.1 he with he | he
            · exact reads.values e he
            · rw [List.mem_singleton.1 he]
              exact symbol_of_valueAt hv

/-- A last group of at most four bytes is what is written for the bytes that are made of it. -/
theorem LastGroup.Reads.encode_of_bytes {start : Nat} {input bytes : List UInt8} {g : LastGroup}
    (reads : g.Reads input) (short : input.length ≤ 4) (h : g.bytes start = .ok bytes) :
    encode bytes = input := by
  obtain ⟨symbols, pads⟩ := g
  obtain ⟨rfl, values⟩ := reads
  simp only [List.length_append, List.length_map, List.length_replicate] at short
  unfold LastGroup.bytes at h
  split at h
  · rename_i empty
    cases empty
    split at h
    · rename_i none
      cases none
      cases h
      rfl
    · cases h
  · cases h
  · split at h
    · cases h
    · rename_i complete
      simp only at values complete h short ⊢
      split at h
      · simp only [List.forall_mem_cons, List.length_cons, List.length_nil] at values complete short
        obtain ⟨⟨hw, rfl⟩, ⟨hx, rfl⟩, -⟩ := values
        have two : pads = 2 := by omega
        split at h
        · cases h
        · cases h
          rw [encode_take_one hw hx (by omega), two]
          rfl
      · simp only [List.forall_mem_cons, List.length_cons, List.length_nil] at values complete short
        obtain ⟨⟨hw, rfl⟩, ⟨hx, rfl⟩, ⟨hy, rfl⟩, -⟩ := values
        have one : pads = 1 := by omega
        split at h
        · cases h
        · cases h
          rw [encode_take_two hw hx hy (by omega), one]
          rfl
      · simp only [List.forall_mem_cons, List.length_cons, List.length_nil] at values complete short
        obtain ⟨⟨hw, rfl⟩, ⟨hx, rfl⟩, ⟨hy, rfl⟩, ⟨hz, rfl⟩, -⟩ := values
        have none : pads = 0 := by omega
        cases h
        have written := encode_bytesOf hw hx hy hz []
        rw [List.append_nil] at written
        rw [written, none]
        rfl
      · cases h

/-! ## Reading -/

/-- All groups are what is written for the bytes that are read. -/
theorem encode_of_groups {input bytes : List UInt8} {start : Nat}
    (h : groups input start = .ok bytes) : encode bytes = input := by
  fun_induction groups input start generalizing bytes with
  | case1 start a b c d e rest ih =>
    obtain ⟨w, ha, h⟩ := ok_of_bind h
    obtain ⟨x, hb, h⟩ := ok_of_bind h
    obtain ⟨y, hc, h⟩ := ok_of_bind h
    obtain ⟨z, hd, h⟩ := ok_of_bind h
    obtain ⟨following, hf, h⟩ := ok_of_bind h
    cases h
    obtain ⟨hw, rfl⟩ := symbol_of_valueAt ha
    obtain ⟨hx, rfl⟩ := symbol_of_valueAt hb
    obtain ⟨hy, rfl⟩ := symbol_of_valueAt hc
    obtain ⟨hz, rfl⟩ := symbol_of_valueAt hd
    rw [encode_bytesOf hw hx hy hz, ih hf]
  | case2 last start notFull =>
    have short : last.length ≤ 4 := by
      rcases last with _ | ⟨a, _ | ⟨b, _ | ⟨c, _ | ⟨d, _ | ⟨e, rest⟩⟩⟩⟩⟩
      · simp
      · simp
      · simp
      · simp
      · simp
      · exact (notFull a b c d e rest rfl).elim
    obtain ⟨g, hg, h⟩ := ok_of_bind h
    have nothing : LastGroup.Reads ⟨[], 0⟩ [] := ⟨rfl, by simp⟩
    exact (nothing.lastGroup hg).encode_of_bytes short h

/-- Bytes are read from nothing but what is written for them. -/
theorem encode_of_decode {input bytes : List UInt8} (h : decode input = .ok bytes) :
    encode bytes = input := by
  unfold decode at h
  split at h
  · cases h
  · exact encode_of_groups h

end ParamFile.Text.Base64

namespace ParamFile.Cipher

open Text

/-! ## Opening -/

theorem exists_splitAtSeparator? {s : List Char} (h : separator ∈ s) :
    ∃ before behind, splitAtSeparator? s = some (before, behind) := by
  induction s with
  | nil => cases h
  | cons c rest ih =>
    by_cases here : c = separator
    · exact ⟨[], rest, by rw [splitAtSeparator?, if_pos here]⟩
    · have later : separator ∈ rest := by
        rcases List.mem_cons.1 h with eq | later
        · exact absurd eq.symm here
        · exact later
      obtain ⟨before, behind, sides⟩ := ih later
      exact ⟨c :: before, behind, by rw [splitAtSeparator?, if_neg here, sides]; rfl⟩

/-- Every ciphertext opens, also one whose key holds a separator. -/
theorem exists_opened_sealed (plaintext keyId : String) :
    ∃ e, opened (sealed plaintext keyId) = .ok e := by
  obtain ⟨before, behind, sides⟩ :=
    exists_splitAtSeparator? (s := keyId.toList ++ separator :: plaintext.toList) (by simp)
  exact ⟨_, by rw [opened_sealed_eq, sides]⟩

/-- The text of bytes below 128 is the only one with these bytes. -/
theorem eq_asciiText_of_encode {s : String} {bytes : List UInt8} (h : Utf8.encode s = bytes)
    (ascii : ∀ b ∈ bytes, b.toNat < 128) : s = asciiText bytes := by
  have same : Utf8.decode (Utf8.encode s) = Utf8.decode (Utf8.encode (asciiText bytes)) := by
    rw [encode_asciiText ascii, h]
  rw [Utf8.decode_encode, Utf8.decode_encode] at same
  exact Except.ok.inj same

/-- What opens is the ciphertext of what it opens to, but for white space around it, and its key holds no
separator; nothing else opens. -/
theorem opened_eq_ok {c keyId plaintext : String} :
    opened c = .ok (keyId, plaintext) ↔
      separator ∉ keyId.toList ∧ sealed plaintext keyId = .ofList (trim c.toList) := by
  constructor
  · intro h
    rw [opened_eq] at h
    split at h
    · cases h
    · rename_i bytes found
      split at h
      · cases h
      · rename_i text read
        split at h
        · rename_i key rest sides
          cases h
          obtain ⟨parts, free⟩ := eq_of_splitAtSeparator? sides
          have written := Base64.encode_of_decode found
          have whole : String.ofList key ++ .singleton separator ++ .ofList rest = text := by
            apply String.toList_inj.1
            simp [parts]
          refine ⟨by simpa using free, ?_⟩
          rw [sealed, whole, Utf8.encode_of_decode read]
          exact (eq_asciiText_of_encode written.symm fun b hb => (Base64.encode_plain hb).1).symm
        · cases h
  · rintro ⟨free, eq⟩
    have trimmed : trim (sealed plaintext keyId).toList = (sealed plaintext keyId).toList :=
      trim_asciiText_encode _
    have alike : opened c = opened (sealed plaintext keyId) := by
      rw [opened_eq, opened_eq, trimmed, eq, String.toList_ofList]
    rw [alike, opened_sealed free]

/-! ## Both ways -/

/-- Sealing and opening undo each other. Every ciphertext opens, and to its key and its plaintext exactly if
the key holds no separator. Whatever opens holds a key without separator, and is the ciphertext of what it
opens to with white space around it; so of the trimmed texts only one opens to a given pair. -/
theorem opened_inverse :
    (∀ keyId plaintext, ∃ e, opened (sealed plaintext keyId) = .ok e ∧
      (e = (keyId, plaintext) ↔ separator ∉ keyId.toList)) ∧
    (∀ c keyId plaintext, opened c = .ok (keyId, plaintext) →
      separator ∉ keyId.toList ∧ sealed plaintext keyId = .ofList (trim c.toList)) ∧
    ∀ c c' e, trim c.toList = c.toList → trim c'.toList = c'.toList →
      opened c = .ok e → opened c' = .ok e → c = c' := by
  refine ⟨fun keyId plaintext => ?_, fun c keyId plaintext => opened_eq_ok.1, ?_⟩
  · obtain ⟨e, opens⟩ := exists_opened_sealed plaintext keyId
    refine ⟨e, opens, ?_, fun free => ?_⟩
    · rintro rfl
      exact (opened_eq_ok.1 opens).1
    · rw [opened_sealed free] at opens
      exact (Except.ok.inj opens).symm
  · intro c c' e trimmed trimmed' opens opens'
    have same := (opened_eq_ok.1 opens).2.symm.trans (opened_eq_ok.1 opens').2
    rw [trimmed, trimmed'] at same
    simpa using same

/-- Two symbols of padding, white space on either side, and a key that ends early. -/
theorem opened_inverse_padded :
    opened "\t awBwdw==\n" = .ok ("k", "pw") ∧
      separator ∉ "k".toList ∧ sealed "pw" "k" = "awBwdw==" ∧
      (∃ e, opened (sealed "pw" "k\x00x") = .ok e ∧ e ≠ ("k\x00x", "pw")) ∧
      ∀ c, trim c.toList = c.toList → opened c = .ok ("k", "pw") → c = "awBwdw==" := by
  obtain ⟨forth, back, only⟩ := opened_inverse
  have opens : opened "\t awBwdw==\n" = .ok ("k", "pw") := by decide +kernel
  have trimmed : trim "awBwdw==".toList = "awBwdw==".toList := by decide +kernel
  obtain ⟨free, written⟩ := back _ _ _ opens
  have form : sealed "pw" "k" = "awBwdw==" := written.trans (by decide +kernel)
  refine ⟨opens, free, form, ?_, fun c plain same => ?_⟩
  · obtain ⟨e, cut, whole⟩ := forth "k\x00x" "pw"
    exact ⟨e, cut, mt whole.1 (by decide +kernel)⟩
  · exact only c _ _ plain trimmed same (by decide +kernel)

end ParamFile.Cipher
