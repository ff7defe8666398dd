import PromptDispatch.Text.Utf8

/-!
# Bytes of a text

Bytes that are decoded without loss are those of the text that they give (`encode_of_decode?`), the
bytes of a text are decoded to it (`decode_encode`), and different texts have different bytes
(`encode_injective`).

A sequence of bytes is opened by a first byte (`Opening`) and goes on as long as ranges are left
(`exists_of_decodeFrom`); each length of a sequence has one lemma about its character.
-/

namespace PromptDispatch.Text

/-! ## characters -/

theorem encode_cons (c : Char) (s : List Char) :
    encode (c :: s) = String.utf8EncodeChar c ++ encode s :=
  List.flatMap_cons

theorem encode_injective {s t : List Char} (h : encode s = encode t) : s = t := by
  have hbytes : (String.ofList s).toByteArray = (String.ofList t).toByteArray := by
    rw [String.toByteArray_ofList, String.toByteArray_ofList]
    exact congrArg List.toByteArray h
  exact String.ofList_injective (String.toByteArray_inj.1 hbytes)

theorem toNat_val_ofNat {n : Nat} (h : n.isValidChar) : (Char.ofNat n).val.toNat = n := by
  rw [Char.ofNat, dif_pos h]
  rfl

section
variable {a b c d : UInt8} {bits : Nat}

theorem utf8EncodeChar_one (ha : a.toNat < 0x80) :
    String.utf8EncodeChar (Char.ofNat a.toNat) = [a] := by
  rw [String.utf8EncodeChar, toNat_val_ofNat (.inl (by omega)), if_pos (by omega),
    UInt8.ofNat_toNat]

theorem utf8EncodeChar_two (ha : a.toNat = bits + 0xC0) (hbits : 2 ≤ bits) (hbits' : bits < 0x20)
    (hb : 0x80 ≤ b.toNat) (hb' : b.toNat ≤ 0xBF) :
    String.utf8EncodeChar (Char.ofNat (bits * 64 + b.toNat % 64)) = [a, b] := by
  generalize hn : bits * 64 + b.toNat % 64 = n
  rw [String.utf8EncodeChar, toNat_val_ofNat (.inl (by omega)), if_neg (by omega),
    if_pos (by omega)]
  have h1 : n / 64 % 0x20 + 0xC0 = a.toNat := by omega
  have h2 : n % 0x40 + 0x80 = b.toNat := by omega
  rw [h1, h2, UInt8.ofNat_toNat, UInt8.ofNat_toNat]

theorem utf8EncodeChar_three (ha : a.toNat = bits + 0xE0) (hbits : bits < 0x10)
    (hb : 0x80 ≤ b.toNat) (hb' : b.toNat ≤ 0xBF) (hlow : bits = 0 → 0xA0 ≤ b.toNat)
    (hsurrogate : bits = 0xD → b.toNat ≤ 0x9F) (hc : 0x80 ≤ c.toNat) (hc' : c.toNat ≤ 0xBF) :
    String.utf8EncodeChar (Char.ofNat ((bits * 64 + b.toNat % 64) * 64 + c.toNat % 64)) =
      [a, b, c] := by
  generalize hn : (bits * 64 + b.toNat % 64) * 64 + c.toNat % 64 = n
  have hvalid : n.isValidChar := by
    rcases Nat.lt_or_ge bits 0xE with h | h
    · exact .inl (by omega)
    · exact .inr (by omega)
  rw [String.utf8EncodeChar, toNat_val_ofNat hvalid, if_neg (by omega), if_neg (by omega),
    if_pos (by omega)]
  have h1 : n / 4096 % 0x10 + 0xE0 = a.toNat := by omega
  have h2 : n / 64 % 0x40 + 0x80 = b.toNat := by omega
  have h3 : n % 0x40 + 0x80 = c.toNat := by omega
  rw [h1, h2, h3, UInt8.ofNat_toNat, UInt8.ofNat_toNat, UInt8.ofNat_toNat]

theorem utf8EncodeChar_four (ha : a.toNat = bits + 0xF0) (hbits : bits ≤ 4)
    (hb : 0x80 ≤ b.toNat) (hb' : b.toNat ≤ 0xBF) (hlow : bits = 0 → 0x90 ≤ b.toNat)
    (hhigh : bits = 4 → b.toNat ≤ 0x8F) (hc : 0x80 ≤ c.toNat) (hc' : c.toNat ≤ 0xBF)
    (hd : 0x80 ≤ d.toNat) (hd' : d.toNat ≤ 0xBF) :
    String.utf8EncodeChar
        (Char.ofNat (((bits * 64 + b.toNat % 64) * 64 + c.toNat % 64) * 64 + d.toNat % 64)) =
      [a, b, c, d] := by
  generalize hn : ((bits * 64 + b.toNat % 64) * 64 + c.toNat % 64) * 64 + d.toNat % 64 = n
  rw [String.utf8EncodeChar, toNat_val_ofNat (.inr (by omega)), if_neg (by omega),
    if_neg (by omega), if_neg (by omega)]
  have h1 : n / 262144 % 0x08 + 0xF0 = a.toNat := by omega
  have h2 : n / 4096 % 0x40 + 0x80 = b.toNat := by omega
  have h3 : n / 64 % 0x40 + 0x80 = c.toNat := by omega
  have h4 : n % 0x40 + 0x80 = d.toNat := by omega
  rw [h1, h2, h3, h4, UInt8.ofNat_toNat, UInt8.ofNat_toNat, UInt8.ofNat_toNat, UInt8.ofNat_toNat]

end

/-! ## sequences -/

/-- what a first byte opens: the bits of its own and the ranges of the bytes after it -/
inductive Opening (b : Nat) : Nat × List (Nat × Nat) → Prop
  | one (hb : b < 0x80) : Opening b (b, [])
  | two (bits : Nat) (hb : b = bits + 0xC0) (hbits : 2 ≤ bits) (hbits' : bits < 0x20) :
    Opening b (bits, [(0x80, 0xBF)])
  | three (bits lo hi : Nat) (hb : b = bits + 0xE0) (hbits : bits < 0x10) (hlo : 0x80 ≤ lo)
    (hhi : hi ≤ 0xBF) (hlow : bits = 0 → 0xA0 ≤ lo) (hsurrogate : bits = 0xD → hi ≤ 0x9F) :
    Opening b (bits, [(lo, hi), (0x80, 0xBF)])
  | four (bits lo hi : Nat) (hb : b = bits + 0xF0) (hbits : bits ≤ 4) (hlo : 0x80 ≤ lo)
    (hhi : hi ≤ 0xBF) (hlow : bits = 0 → 0x90 ≤ lo) (hhigh : bits = 4 → hi ≤ 0x8F) :
    Opening b (bits, [(lo, hi), (0x80, 0xBF), (0x80, 0xBF)])

theorem opening_of_followers {b : Nat} {o : Nat × List (Nat × Nat)} (h : followers b = some o) :
    Opening b o := by
  unfold followers at h
  split at h
  · rw [← Option.some.inj h]
    exact .one (by omega)
  split at h
  · cases h
  split at h
  · rw [← Option.some.inj h]
    exact .two _ (by omega) (by omega) (by omega)
  split at h
  · rw [← Option.some.inj h]
    exact .three _ _ _ (by omega) (by omega) (by omega) (by omega) (by omega) (by omega)
  split at h
  · rw [← Option.some.inj h]
    exact .three _ _ _ (by omega) (by omega) (by omega) (by omega) (by omega) (by omega)
  split at h
  · rw [← Option.some.inj h]
    exact .three _ _ _ (by omega) (by omega) (by omega) (by omega) (by omega) (by omega)
  split at h
  · rw [← Option.some.inj h]
    exact .four _ _ _ (by omega) (by omega) (by omega) (by omega) (by omega) (by omega)
  split at h
  · rw [← Option.some.inj h]
    exact .four _ _ _ (by omega) (by omega) (by omega) (by omega) (by omega) (by omega)
  split at h
  · rw [← Option.some.inj h]
    exact .four _ _ _ (by omega) (by omega) (by omega) (by omega) (by omega) (by omega)
  · cases h

/-- An open sequence that is decoded without loss goes on with a byte in its range; the last one
completes a character. -/
theorem exists_of_decodeFrom {bits lo hi : Nat} {ranges : List (Nat × Nat)} {r : List UInt8}
    {s : List Char} (h : decodeFrom (some ⟨bits, (lo, hi) :: ranges⟩) r = s.map some) :
    ∃ b r', r = b :: r' ∧ lo ≤ b.toNat ∧ b.toNat ≤ hi ∧
      if ranges = [] then
        ∃ s', s = Char.ofNat (bits * 64 + b.toNat % 64) :: s' ∧ decode r' = s'.map some
      else decodeFrom (some ⟨bits * 64 + b.toNat % 64, ranges⟩) r' = s.map some := by
  cases r with
  | nil =>
    cases s <;> simp [decodeFrom] at h
  | cons b r =>
    rw [decodeFrom_cons, nextByte] at h
    split at h
    · rename_i hb
      refine ⟨b, r, rfl, hb.1, hb.2, ?_⟩
      cases ranges with
      | nil =>
        cases s with
        | nil => simp at h
        | cons c s =>
          obtain ⟨hc, hs⟩ := List.cons.inj h
          exact ⟨s, by rw [Option.some.inj hc], hs⟩
      | cons range ranges => simpa using h
    · cases s <;> simp at h

/-- Bytes that are decoded without loss begin with those of the first character. -/
theorem exists_of_decode {a : UInt8} {r : List UInt8} {s : List Char}
    (h : decode (a :: r) = s.map some) :
    ∃ x s' r', s = x :: s' ∧ a :: r = String.utf8EncodeChar x ++ r' ∧ decode r' = s'.map some := by
  rw [decode, decodeFrom_cons, nextByte, firstByte] at h
  cases hopen : followers a.toNat with
  | none =>
    rw [hopen] at h
    cases s <;> cases h
  | some o =>
    rw [hopen] at h
    have hopening := opening_of_followers hopen
    generalize ha : a.toNat = n at h hopening
    cases hopening with
    | one hn =>
      cases s with
      | nil => cases h
      | cons x s =>
        obtain ⟨hx, hs⟩ := List.cons.inj h
        refine ⟨x, s, r, rfl, ?_, hs⟩
        rw [← Option.some.inj hx, ← ha, utf8EncodeChar_one (ha ▸ hn)]
        rfl
    | two bits hn hbits hbits' =>
      obtain ⟨b, r, rfl, hb, hb', s', rfl, hs⟩ := exists_of_decodeFrom h
      refine ⟨_, s', r, rfl, ?_, hs⟩
      rw [utf8EncodeChar_two (ha.trans hn) hbits hbits' hb hb']
      rfl
    | three bits lo hi hn hbits hlo hhi hlow hsurrogate =>
      obtain ⟨b, r, rfl, hb, hb', h⟩ := exists_of_decodeFrom h
      obtain ⟨c, r, rfl, hc, hc', s', rfl, hs⟩ := exists_of_decodeFrom h
      refine ⟨_, s', r, rfl, ?_, hs⟩
      rw [utf8EncodeChar_three (ha.trans hn) hbits (by omega) (by omega) (by omega) (by omega) hc
        hc']
      rfl
    | four bits lo hi hn hbits hlo hhi hlow hhigh =>
      obtain ⟨b, r, rfl, hb, hb', h⟩ := exists_of_decodeFrom h
      obtain ⟨c, r, rfl, hc, hc', h⟩ := exists_of_decodeFrom h
      obtain ⟨d, r, rfl, hd, hd', s', rfl, hs⟩ := exists_of_decodeFrom h
      refine ⟨_, s', r, rfl, ?_, hs⟩
      rw [utf8EncodeChar_four (ha.trans hn) hbits (by omega) (by omega) (by omega) (by omega) hc hc'
        hd hd']
      rfl

/-! ## whole texts -/

theorem encode_of_decode {bytes : List UInt8} {s : List Char} (h : decode bytes = s.map some) :
    encode s = bytes := by
  induction s generalizing bytes with
  | nil =>
    cases bytes with
    | nil => rfl
    | cons a r =>
      obtain ⟨x, s', r', hs, -⟩ := exists_of_decode h
      cases hs
  | cons x s ih =>
    cases bytes with
    | nil => cases h
    | cons a r =>
      obtain ⟨x', s', r', hs, hbytes, hrest⟩ := exists_of_decode h
      cases hs
      rw [hbytes, encode_cons, ih hrest]

theorem eq_map_some_of_mapM {α : Type} {l : List (Option α)} {s : List α}
    (h : l.mapM id = some s) : l = s.map some := by
  induction l generalizing s with
  | nil =>
    cases h
    rfl
  | cons a r ih =>
    rw [List.mapM_cons] at h
    obtain ⟨x, hx, h⟩ := Option.bind_eq_some_iff.1 h
    obtain ⟨t, ht, h⟩ := Option.bind_eq_some_iff.1 h
    cases h
    rw [ih ht, List.map_cons]
    exact congrArg (· :: _) hx

/-- Bytes that are well-formed are those of their text. -/
theorem encode_of_decode? {bytes : List UInt8} {s : List Char} (h : decode? bytes = some s) :
    encode s = bytes :=
  encode_of_decode (eq_map_some_of_mapM h)

/-! ## the bytes of a text -/

theorem followers_one {b : Nat} (h : b < 0x80) : followers b = some (b, []) := if_pos h

theorem followers_two {bits : Nat} (h : 2 ≤ bits) (h' : bits < 0x20) :
    followers (bits + 0xC0) = some (bits, [(0x80, 0xBF)]) := by
  simp only [followers]
  rw [if_neg (by omega), if_neg (by omega), if_pos (by omega), Nat.add_sub_cancel]

theorem followers_three {bits : Nat} (h : bits < 0x10) :
    followers (bits + 0xE0) = some (bits,
      [(if bits = 0 then 0xA0 else 0x80, if bits = 0xD then 0x9F else 0xBF), (0x80, 0xBF)]) := by
  simp only [followers]
  rw [if_neg (by omega), if_neg (by omega), if_neg (by omega)]
  by_cases hlow : bits = 0
  · simp [hlow]
  by_cases hsurrogate : bits = 0xD
  · simp [hsurrogate]
  rw [if_neg (by omega), if_neg (by omega), if_pos (by omega), if_neg hlow, if_neg hsurrogate,
    Nat.add_sub_cancel]

theorem followers_four {bits : Nat} (h : bits ≤ 4) :
    followers (bits + 0xF0) = some (bits,
      [(if bits = 0 then 0x90 else 0x80, if bits = 4 then 0x8F else 0xBF), (0x80, 0xBF),
        (0x80, 0xBF)]) := by
  simp only [followers]
  rw [if_neg (by omega), if_neg (by omega), if_neg (by omega), if_neg (by omega), if_neg (by omega),
    if_neg (by omega)]
  by_cases hlow : bits = 0
  · simp [hlow]
  by_cases hhigh : bits = 4
  · simp [hhigh]
  rw [if_neg (by omega), if_pos (by omega), if_neg hlow, if_neg hhigh, Nat.add_sub_cancel]

section
variable {a b : UInt8} {bits lo hi : Nat} {ranges : List (Nat × Nat)}

theorem decode_one (ha : a.toNat < 0x80) (r : List UInt8) :
    decode (a :: r) = some (Char.ofNat a.toNat) :: decode r := by
  rw [decode, decodeFrom_cons, nextByte, firstByte, followers_one ha]
  rfl

theorem decode_opening (h : followers a.toNat = some (bits, (lo, hi) :: ranges)) (r : List UInt8) :
    decode (a :: r) = decodeFrom (some ⟨bits, (lo, hi) :: ranges⟩) r := by
  rw [decode, decodeFrom_cons, nextByte, firstByte, h]
  rfl

theorem decodeFrom_follower (hlo : lo ≤ b.toNat) (hhi : b.toNat ≤ hi) (r : List UInt8) :
    decodeFrom (some ⟨bits, (lo, hi) :: ranges⟩) (b :: r) =
      if ranges = [] then some (Char.ofNat (bits * 64 + b.toNat % 64)) :: decode r
      else decodeFrom (some ⟨bits * 64 + b.toNat % 64, ranges⟩) r := by
  rw [decodeFrom_cons, nextByte, if_pos ⟨hlo, hhi⟩]
  cases ranges <;> rfl

end

theorem toNat_ofNat_of_lt {n : Nat} (h : n < 256) : (UInt8.ofNat n).toNat = n := by
  rw [UInt8.toNat_ofNat', Nat.mod_eq_of_lt h]

/-- the bytes of a character are decoded to it, whatever comes after them -/
theorem decode_utf8EncodeChar (c : Char) (r : List UInt8) :
    decode (String.utf8EncodeChar c ++ r) = some c :: decode r := by
  have hvalid : c.val.toNat < 0xD800 ∨ 0xDFFF < c.val.toNat ∧ c.val.toNat < 0x110000 := c.valid
  have hc : Char.ofNat c.val.toNat = c := Char.ofNat_toNat c
  generalize hn : c.val.toNat = n at hvalid hc
  have hlast : (UInt8.ofNat (n % 0x40 + 0x80)).toNat = n % 0x40 + 0x80 :=
    toNat_ofNat_of_lt (by omega)
  have hmiddle : (UInt8.ofNat (n / 64 % 0x40 + 0x80)).toNat = n / 64 % 0x40 + 0x80 :=
    toNat_ofNat_of_lt (by omega)
  rw [String.utf8EncodeChar, hn]
  split
  · have hfirst : (UInt8.ofNat n).toNat = n := toNat_ofNat_of_lt (by omega)
    rw [List.singleton_append, decode_one (by omega), hfirst, hc]
  split
  · have hfirst : (UInt8.ofNat (n / 64 % 0x20 + 0xc0)).toNat = n / 64 + 0xC0 := by
      rw [toNat_ofNat_of_lt (by omega)]
      omega
    have hbits : n / 64 * 64 + (n % 0x40 + 0x80) % 64 = n := by omega
    rw [List.cons_append, List.singleton_append,
      decode_opening (hfirst ▸ followers_two (by omega) (by omega)),
      decodeFrom_follower (by omega) (by omega), if_pos rfl, hlast, hbits, hc]
  split
  · have hfirst : (UInt8.ofNat (n / 4096 % 0x10 + 0xe0)).toNat = n / 4096 + 0xE0 := by
      rw [toNat_ofNat_of_lt (by omega)]
      omega
    have hbits : (n / 4096 * 64 + (n / 64 % 0x40 + 0x80) % 64) * 64 + (n % 0x40 + 0x80) % 64 = n := by
      omega
    rw [List.cons_append, List.cons_append, List.singleton_append,
      decode_opening (hfirst ▸ followers_three (by omega)),
      decodeFrom_follower (by split <;> omega) (by split <;> omega), if_neg (by simp),
      decodeFrom_follower (by omega) (by omega), if_pos rfl, hmiddle, hlast, hbits, hc]
  · have hfirst : (UInt8.ofNat (n / 262144 % 0x08 + 0xf0)).toNat = n / 262144 + 0xF0 := by
      rw [toNat_ofNat_of_lt (by omega)]
      omega
    have hsecond : (UInt8.ofNat (n / 4096 % 0x40 + 0x80)).toNat = n / 4096 % 0x40 + 0x80 :=
      toNat_ofNat_of_lt (by omega)
    have hbits : ((n / 262144 * 64 + (n / 4096 % 0x40 + 0x80) % 64) * 64 +
        (n / 64 % 0x40 + 0x80) % 64) * 64 + (n % 0x40 + 0x80) % 64 = n := by
      omega
    rw [List.cons_append, List.cons_append, List.cons_append, List.singleton_append,
      decode_opening (hfirst ▸ followers_four (by omega)),
      decodeFrom_follower (by split <;> omega) (by split <;> omega), if_neg (by simp),
      decodeFrom_follower (by omega) (by omega), if_neg (by simp),
      decodeFrom_follower (by omega) (by omega), if_pos rfl, hsecond, hmiddle, hlast, hbits, hc]

/-- The bytes of a text are decoded to it without loss. -/
theorem decode_encode (s : List Char) : decode (encode s) = s.map some := by
  induction s with
  | nil => rfl
  | cons c s ih => rw [encode_cons, decode_utf8EncodeChar, ih, List.map_cons]

theorem decodeLossy_encode (s : List Char) : decodeLossy (encode s) = s := by
  rw [decodeLossy, decode_encode, List.map_map]
  exact List.map_id s

end PromptDispatch.Text
