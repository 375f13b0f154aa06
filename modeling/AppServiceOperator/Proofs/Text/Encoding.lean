import AppServiceOperator.Text.Utf8
/-!
# Texts and their bytes

The strict decoder reads every text back from its bytes (`decode_encode`), so texts with the same bytes
are the same (`encode_inj`). No byte of a text is 0xFF (`ff_not_mem_encode`), so that one can stand behind
a text and end it.
-/
namespace AppServiceOperator.Text.Utf8

/-! ## Bytes of characters -/

theorem toList_loop (bs : ByteArray) (i : Nat) (read : List UInt8) :
    ByteArray.toList.loop bs i read = read.reverse ++ bs.data.toList.drop i := by
  fun_induction ByteArray.toList.loop bs i read with
  | case1 i read h ih =>
    have bound : i < bs.data.toList.length := by simpa using h
    have item : bs.get! i = bs.data.toList[i] := by
      rw [ByteArray.get!, getElem!_pos bs.data i h, Array.getElem_toList]
    rw [ih, List.drop_eq_getElem_cons bound, List.reverse_cons, List.append_assoc, item]
    rfl
  | case2 i read h =>
    have bound : bs.data.toList.length ≤ i := by simpa using h
    rw [List.drop_eq_nil_of_le bound, List.append_nil]

/-- The bytes of a text are those of its characters. -/
theorem encode_eq (s : String) : encode s = s.toList.flatMap String.utf8EncodeChar := by
  have bytes : s.toByteArray = (s.toList.flatMap String.utf8EncodeChar).toByteArray := by
    conv => lhs; rw [← String.ofList_toList (s := s)]
    exact String.toByteArray_ofList
  rw [encode, String.toUTF8_eq_toByteArray, bytes, ByteArray.toList, toList_loop, List.reverse_nil,
    List.drop_zero, List.toList_data_toByteArray, List.nil_append]

/-- The bytes of a character have one of four forms. -/
theorem encodeChar_cases (c : Char) :
    c.toNat < 0x80 ∧ String.utf8EncodeChar c = [UInt8.ofNat c.toNat] ∨
    (0x80 ≤ c.toNat ∧ c.toNat < 0x800) ∧
      String.utf8EncodeChar c = [UInt8.ofNat (c.toNat / 64 + 0xC0), UInt8.ofNat (c.toNat % 64 + 0x80)] ∨
    (0x800 ≤ c.toNat ∧ c.toNat < 0x10000) ∧ String.utf8EncodeChar c =
      [UInt8.ofNat (c.toNat / 4096 + 0xE0), UInt8.ofNat (c.toNat / 64 % 64 + 0x80),
        UInt8.ofNat (c.toNat % 64 + 0x80)] ∨
    0x10000 ≤ c.toNat ∧ String.utf8EncodeChar c =
      [UInt8.ofNat (c.toNat / 262144 + 0xF0), UInt8.ofNat (c.toNat / 4096 % 64 + 0x80),
        UInt8.ofNat (c.toNat / 64 % 64 + 0x80), UInt8.ofNat (c.toNat % 64 + 0x80)] := by
  have valid : c.toNat.isValidChar := c.valid
  have small {n m : Nat} (h : n < m) : n % m = n := Nat.mod_eq_of_lt h
  simp only [String.utf8EncodeChar, Char.toNat_val]
  split
  next h => exact .inl ⟨by omega, rfl⟩
  next h =>
    split
    next h' => exact .inr (.inl ⟨by omega, by rw [small (by omega)]⟩)
    next h' =>
      split
      next h'' => exact .inr (.inr (.inl ⟨by omega, by rw [small (by omega)]⟩))
      next h'' => exact .inr (.inr (.inr ⟨by omega, by rw [small (by omega)]⟩))

theorem toNat_ofNat {n : Nat} (h : n < 256) : (UInt8.ofNat n).toNat = n := by
  rw [UInt8.toNat_ofNat']
  exact Nat.mod_eq_of_lt h

/-! ## The decoder -/

theorem piecesFrom_cons {n : Nat} (hn : n < 256) {s s' : State} {done : List Piece} (bs : List UInt8)
    (h : step n s = (done, s')) : piecesFrom s (UInt8.ofNat n :: bs) = done ++ piecesFrom s' bs := by
  cases s <;> rw [piecesFrom, toNat_ofNat hn, h]

theorem step_lead {b : Nat} {s : State} (hb : 0x80 ≤ b) (h : lead? b = some s) : step b .start = ([], s) := by
  rw [step, first, if_neg (by omega), h]

section

variable {b size left low high value : Nat}

theorem step_last (h : low ≤ b ∧ b ≤ high) :
    step b (.inside size 1 low high value) = ([.char (Char.ofNat (value * 64 + (b - 0x80)))], .start) := by
  rw [step, if_pos h]
  rfl

theorem step_more (h : low ≤ b ∧ b ≤ high) : step b (.inside size (left + 2) low high value) =
    ([], .inside (size + 1) (left + 1) 0x80 0xBF (value * 64 + (b - 0x80))) := by
  rw [step, if_pos h]
  rfl

end

/-- The first byte of three leaves room for every second one, but for overlong forms and surrogates. -/
theorem lead?_three {a b : Nat} (ha : a < 16) (hb : b < 64) (long : 0x20 ≤ a * 64 + b)
    (scalar : a * 64 + b < 0x360 ∨ 0x380 ≤ a * 64 + b) :
    ∃ low high, lead? (a + 0xE0) = some (.inside 1 2 low high a) ∧ low ≤ b + 0x80 ∧ b + 0x80 ≤ high := by
  unfold lead?
  rw [if_neg (by omega)]
  rcases Nat.eq_zero_or_pos a with rfl | pos
  · exact ⟨_, _, if_pos rfl, by omega, by omega⟩
  rw [if_neg (by omega)]
  by_cases surrogate : a = 13
  · subst surrogate
    exact ⟨_, _, if_pos rfl, by omega, by omega⟩
  rw [if_neg (by omega), if_pos (by omega), Nat.add_sub_cancel]
  exact ⟨_, _, rfl, by omega, by omega⟩

/-- The first byte of four leaves room for every second one, but for overlong forms and what is above the
last code point. -/
theorem lead?_four {a b : Nat} (hb : b < 64) (long : 0x10 ≤ a * 64 + b) (low : a * 64 + b < 0x110) :
    ∃ low high, lead? (a + 0xF0) = some (.inside 1 3 low high a) ∧ low ≤ b + 0x80 ∧ b + 0x80 ≤ high := by
  unfold lead?
  rw [if_neg (by omega), if_neg (by omega), if_neg (by omega), if_neg (by omega)]
  rcases Nat.eq_zero_or_pos a with rfl | pos
  · exact ⟨_, _, if_pos rfl, by omega, by omega⟩
  rw [if_neg (by omega)]
  by_cases last : a = 4
  · subst last
    rw [if_neg (by omega)]
    exact ⟨_, _, if_pos rfl, by omega, by omega⟩
  rw [if_pos (by omega), Nat.add_sub_cancel]
  exact ⟨_, _, rfl, by omega, by omega⟩

/-- The bytes of a character make up one piece. -/
theorem piecesFrom_encodeChar (c : Char) (bs : List UInt8) :
    piecesFrom .start (String.utf8EncodeChar c ++ bs) = .char c :: piecesFrom .start bs := by
  have valid : c.toNat.isValidChar := c.valid
  -- what the bytes add up to is the code of the character again, by division with remainder
  have value {n : Nat} (h : n = c.toNat) : Char.ofNat n = c := by rw [h, Char.ofNat_toNat]
  rcases encodeChar_cases c with ⟨h, form⟩ | ⟨h, form⟩ | ⟨h, form⟩ | ⟨h, form⟩
  · have only : step c.toNat .start = ([.char c], .start) := by
      rw [step, first, if_pos h, Char.ofNat_toNat]
    rw [form]
    exact piecesFrom_cons (by omega) bs only
  · have lead : lead? (c.toNat / 64 + 0xC0) = some (.inside 1 1 0x80 0xBF (c.toNat / 64)) := by
      rw [lead?, if_pos (by omega), Nat.add_sub_cancel]
    rw [form, List.cons_append, piecesFrom_cons (by omega) _ (step_lead (by omega) lead), List.cons_append,
      piecesFrom_cons (by omega) _ (step_last (by omega)), value (by omega)]
    rfl
  · obtain ⟨low, high, lead, hlow, hhigh⟩ : ∃ low high, lead? (c.toNat / 4096 + 0xE0) =
        some (.inside 1 2 low high (c.toNat / 4096)) ∧ low ≤ c.toNat / 64 % 64 + 0x80 ∧
        c.toNat / 64 % 64 + 0x80 ≤ high :=
      lead?_three (by omega) (by omega) (by omega) (by omega)
    rw [form, List.cons_append, piecesFrom_cons (by omega) _ (step_lead (by omega) lead), List.cons_append,
      piecesFrom_cons (by omega) _ (step_more ⟨hlow, hhigh⟩), List.cons_append,
      piecesFrom_cons (by omega) _ (step_last (by omega)), value (by omega)]
    rfl
  · obtain ⟨low, high, lead, hlow, hhigh⟩ : ∃ low high, lead? (c.toNat / 262144 + 0xF0) =
        some (.inside 1 3 low high (c.toNat / 262144)) ∧ low ≤ c.toNat / 4096 % 64 + 0x80 ∧
        c.toNat / 4096 % 64 + 0x80 ≤ high :=
      lead?_four (by omega) (by omega) (by omega)
    rw [form, List.cons_append, piecesFrom_cons (by omega) _ (step_lead (by omega) lead), List.cons_append,
      piecesFrom_cons (by omega) _ (step_more ⟨hlow, hhigh⟩), List.cons_append,
      piecesFrom_cons (by omega) _ (step_more (by omega)), List.cons_append,
      piecesFrom_cons (by omega) _ (step_last (by omega)), value (by omega)]
    rfl

theorem pieces_encode (s : String) : pieces (encode s) = s.toList.map .char := by
  rw [encode_eq, pieces]
  induction s.toList with
  | nil => rfl
  | cons c cs ih => rw [List.flatMap_cons, piecesFrom_encodeChar, ih, List.map_cons]

theorem charsFrom_map_char (index : Nat) (cs : List Char) : charsFrom index (cs.map .char) = .ok cs := by
  induction cs generalizing index with
  | nil => rfl
  | cons c cs ih =>
    rw [List.map_cons, charsFrom, ih]
    rfl

/-- Every text is read back from its bytes. -/
theorem decode_encode (s : String) : decode (encode s) = .ok s := by
  rw [decode, pieces_encode, charsFrom_map_char]
  exact congrArg Except.ok String.ofList_toList

theorem encode_inj {s t : String} (h : encode s = encode t) : s = t :=
  Except.ok.inj ((decode_encode s).symm.trans (h ▸ decode_encode t))

/-! ## A byte that no text has -/

theorem lt_of_mem_encodeChar (c : Char) : ∀ b ∈ String.utf8EncodeChar c, b.toNat < 0xF8 := by
  have valid : c.toNat.isValidChar := c.valid
  rcases encodeChar_cases c with ⟨h, form⟩ | ⟨h, form⟩ | ⟨h, form⟩ | ⟨h, form⟩
  all_goals
    rw [form]
    simp (disch := omega) only [List.forall_mem_cons, List.not_mem_nil, toNat_ofNat, false_imp_iff,
      implies_true, and_true]
    omega

theorem ff_not_mem_encode (s : String) : 0xFF ∉ encode s := by
  rw [encode_eq]
  intro h
  obtain ⟨c, -, hc⟩ := List.mem_flatMap.1 h
  exact absurd (lt_of_mem_encodeChar c _ hc) (by decide)

end AppServiceOperator.Text.Utf8
