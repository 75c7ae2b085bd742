import ParamFile.Cipher

/-!
# Ciphertexts of the local cipher

A ciphertext opens to the key and the plaintext it was made of, if the key holds no separator
(`Cipher.opened_sealed`). The parts: base64 reads what it writes (`Base64.decode_encode`), text
of bytes below 128 has these as its bytes (`encode_asciiText`), and base64 is such text without white
space at its ends (`trim_asciiText_encode`).
-/

namespace ParamFile.Text.Base64

/-! ## Symbols -/

theorem symbol_ne_pad : ∀ v < 64, symbol v ≠ pad := by decide

theorem valueAt_symbol {v : Nat} (h : v < 64) (index : Nat) : valueAt (symbol v) index = .ok v := by
  simp [valueAt, value?_symbol v h]

theorem toNat_ofNat_eq {n : Nat} {b : UInt8} (h : n % 256 = b.toNat) : UInt8.ofNat n = b := by
  apply UInt8.toNat_inj.1
  rw [UInt8.toNat_ofNat']
  exact h

theorem bytesOf_values (a b c : UInt8) :
    bytesOf (a.toNat / 4) (a.toNat % 4 * 16 + b.toNat / 16) (b.toNat % 16 * 4 + c.toNat / 64)
      (c.toNat % 64) = [a, b, c] := by
  have ha := a.toNat_lt
  have hb := b.toNat_lt
  have hc := c.toNat_lt
  simp only [bytesOf, List.cons.injEq, and_true]
  exact ⟨toNat_ofNat_eq (by omega), toNat_ofNat_eq (by omega), toNat_ofNat_eq (by omega)⟩

/-! ## Groups -/

theorem encode_length (l : List UInt8) : (encode l).length % 4 = 0 := by
  fun_induction encode l with
  | case1 a b c rest ih => simp only [List.length_cons]; omega
  | case2 a b => simp
  | case3 a => simp
  | case4 => rfl

theorem groups_cons {w x y z : Nat} (hw : w < 64) (hx : x < 64) (hy : y < 64) (hz : z < 64)
    {following bytes : List UInt8} (ne : following ≠ []) {start : Nat}
    (h : groups following (start + 4) = .ok bytes) :
    groups (symbol w :: symbol x :: symbol y :: symbol z :: following) start =
      .ok (bytesOf w x y z ++ bytes) := by
  obtain ⟨e, rest, rfl⟩ := List.exists_cons_of_ne_nil ne
  simp only [groups, valueAt_symbol hw, valueAt_symbol hx, valueAt_symbol hy, valueAt_symbol hz, h,
    bind, Except.bind, pure, Except.pure]

theorem groups_full {w x y z : Nat} (hw : w < 64) (hx : x < 64) (hy : y < 64) (hz : z < 64)
    (start : Nat) :
    groups [symbol w, symbol x, symbol y, symbol z] start = .ok (bytesOf w x y z) := by
  simp [groups, lastGroup, LastGroup.bytes, valueAt_symbol, symbol_ne_pad, hw, hx, hy, hz, bind,
    Except.bind]

theorem groups_two {w x y : Nat} (hw : w < 64) (hx : x < 64) (hy : y < 64) (h0 : y % 4 = 0)
    (start : Nat) :
    groups [symbol w, symbol x, symbol y, pad] start = .ok ((bytesOf w x y 0).take 2) := by
  simp [groups, lastGroup, LastGroup.bytes, valueAt_symbol, symbol_ne_pad, hw, hx, hy, h0, bind,
    Except.bind]

theorem groups_one {w x : Nat} (hw : w < 64) (hx : x < 64) (h0 : x % 16 = 0) (start : Nat) :
    groups [symbol w, symbol x, pad, pad] start = .ok ((bytesOf w x 0 0).take 1) := by
  simp [groups, lastGroup, LastGroup.bytes, valueAt_symbol, symbol_ne_pad, hw, hx, h0, bind,
    Except.bind]

theorem groups_encode (l : List UInt8) (start : Nat) : groups (encode l) start = .ok l := by
  fun_induction encode l generalizing start with
  | case1 a b c rest ih =>
    have ha := a.toNat_lt
    have hb := b.toNat_lt
    have hc := c.toNat_lt
    -- the last group is read apart, even if it is full
    by_cases hr : encode rest = []
    · have hnil : rest = [] := by
        have h0 := ih 0
        rw [hr] at h0
        simpa [groups, lastGroup, LastGroup.bytes, bind, Except.bind, eq_comm] using h0
      subst hnil
      rw [encode, groups_full (by omega) (by omega) (by omega) (by omega), bytesOf_values]
    · rw [groups_cons (by omega) (by omega) (by omega) (by omega) hr (ih _), bytesOf_values]
      rfl
  | case2 a b =>
    have ha := a.toNat_lt
    have hb := b.toNat_lt
    rw [groups_two (by omega) (by omega) (by omega) (by omega)]
    have := bytesOf_values a b 0
    simp only [bytesOf, List.cons.injEq, and_true] at this
    simp only [bytesOf, List.take_succ_cons, List.take_zero]
    rw [this.1]
    simpa using this.2.1
  | case3 a =>
    have ha := a.toNat_lt
    rw [groups_one (by omega) (by omega) (by omega)]
    have := bytesOf_values a 0 0
    simp only [bytesOf, List.cons.injEq, and_true] at this
    simpa [bytesOf] using this.1
  | case4 => rfl

theorem decode_encode (l : List UInt8) : decode (encode l) = .ok l := by
  have none : hangingFault? (encode l) = none := by
    unfold hangingFault?
    split
    · rw [if_neg]
      have := encode_length l
      omega
    · rfl
  simp only [decode, none, groups_encode]

/-! ## The text of symbols -/

theorem mem_encode {l : List UInt8} {b : UInt8} (h : b ∈ encode l) :
    b = pad ∨ ∃ v < 64, b = symbol v := by
  have of_lt : ∀ {v : Nat}, v < 64 → symbol v = pad ∨ ∃ w < 64, symbol v = symbol w :=
    fun {v} hv => .inr ⟨v, hv, rfl⟩
  fun_induction encode l with
  | case1 x y z rest ih =>
    have hx := x.toNat_lt
    have hy := y.toNat_lt
    have hz := z.toNat_lt
    simp only [List.mem_cons] at h
    rcases h with rfl | rfl | rfl | rfl | h
    · exact of_lt (by omega)
    · exact of_lt (by omega)
    · exact of_lt (by omega)
    · exact of_lt (by omega)
    · exact ih h
  | case2 x y =>
    have hx := x.toNat_lt
    have hy := y.toNat_lt
    simp only [List.mem_cons, List.not_mem_nil, or_false] at h
    rcases h with rfl | rfl | rfl | rfl
    · exact of_lt (by omega)
    · exact of_lt (by omega)
    · exact of_lt (by omega)
    · exact .inl rfl
  | case3 x =>
    have hx := x.toNat_lt
    simp only [List.mem_cons, List.not_mem_nil, or_false] at h
    rcases h with rfl | rfl | rfl | rfl
    · exact of_lt (by omega)
    · exact of_lt (by omega)
    · exact .inl rfl
    · exact .inl rfl
  | case4 => cases h

/-- Base64 is ASCII without white space. -/
theorem encode_plain {l : List UInt8} {b : UInt8} (h : b ∈ encode l) :
    b.toNat < 128 ∧ isBlank (Char.ofNat b.toNat) = false := by
  have symbols : ∀ v < 64,
      (symbol v).toNat < 128 ∧ isBlank (Char.ofNat (symbol v).toNat) = false := by decide
  rcases mem_encode h with rfl | ⟨v, hv, rfl⟩
  · decide
  · exact symbols v hv

end ParamFile.Text.Base64

namespace ParamFile.Cipher

open Text

/-! ## Opening -/

theorem utf8EncodeChar_ofNat {n : Nat} (h : n < 128) :
    String.utf8EncodeChar (Char.ofNat n) = [UInt8.ofNat n] := by
  revert n
  decide

/-- Text of bytes below 128 has these as its bytes. -/
theorem encode_asciiText {bytes : List UInt8} (h : ∀ b ∈ bytes, b.toNat < 128) :
    Utf8.encode (asciiText bytes) = bytes := by
  have key : (bytes.map fun b => Char.ofNat b.toNat).flatMap String.utf8EncodeChar = bytes := by
    induction bytes with
    | nil => rfl
    | cons b l ih =>
      rw [List.map_cons, List.flatMap_cons, ih fun x hx => h x (List.mem_cons_of_mem _ hx),
        utf8EncodeChar_ofNat (h b List.mem_cons_self)]
      simp
  simp only [Utf8.encode, asciiText, String.toUTF8, String.toByteArray_ofList, List.utf8Encode, key]
  simp

theorem trim_asciiText_encode (bytes : List UInt8) :
    trim (asciiText (Base64.encode bytes)).toList = (asciiText (Base64.encode bytes)).toList := by
  have plain : ∀ c ∈ (asciiText (Base64.encode bytes)).toList, isBlank c = false := by
    simp only [asciiText, String.toList_ofList, List.mem_map]
    rintro c ⟨b, hb, rfl⟩
    exact (Base64.encode_plain hb).2
  exact trim_of_ends _ (fun c hc => plain c (List.mem_of_mem_head? hc))
    fun c hc => plain c (List.mem_of_getLast? hc)

/-- A text opens in three steps, each of which can fail. -/
theorem opened_eq (c : String) :
    opened c =
      match Base64.decode (Utf8.encode (.ofList (trim c.toList))) with
      | .error fault => .error (.notBase64 fault)
      | .ok bytes =>
        match Utf8.decode bytes with
        | .error fault => .error (.notUtf8 fault)
        | .ok text =>
          match splitAtSeparator? text.toList with
          | some (keyId, plaintext) => .ok (.ofList keyId, .ofList plaintext)
          | none => .error .notSealed := by
  unfold opened
  cases Base64.decode (Utf8.encode (.ofList (trim c.toList))) with
  | error fault => rfl
  | ok bytes =>
    cases hu : Utf8.decode bytes with
    | error fault => simp only [hu, bind, Except.bind]
    | ok text =>
      simp only [hu, bind, Except.bind]
      rfl

/-- A ciphertext is taken apart at the first separator in the text that it was made of. -/
theorem opened_sealed_eq (plaintext keyId : String) :
    opened (sealed plaintext keyId) =
      match splitAtSeparator? (keyId.toList ++ separator :: plaintext.toList) with
      | some (key, text) => .ok (.ofList key, .ofList text)
      | none => .error .notSealed := by
  have ascii : ∀ b ∈ Base64.encode (Utf8.encode (keyId ++ .singleton separator ++ plaintext)),
      b.toNat < 128 := fun b hb => (Base64.encode_plain hb).1
  have text : (keyId ++ .singleton separator ++ plaintext).toList =
      keyId.toList ++ separator :: plaintext.toList := by simp
  simp only [opened_eq, sealed, trim_asciiText_encode, String.ofList_toList, encode_asciiText ascii,
    Base64.decode_encode, Utf8.decode_encode, text]

/-- A ciphertext opens to what it was made of. -/
theorem opened_sealed {plaintext keyId : String} (h : separator ∉ keyId.toList) :
    opened (sealed plaintext keyId) = .ok (keyId, plaintext) := by
  simp only [opened_sealed_eq, splitAtSeparator?_append h, String.ofList_toList]

end ParamFile.Cipher
