import TapeMachine.Proofs.Pairing
import TapeMachine.Proofs.SurrogateFree

/-! Texts read back from their bytes. What an encoding writes for a code point is read as that code
point again whatever bytes follow, and reading goes on right behind it. So the bytes of a text are read
as the text, in each encoding that has no mark to be skipped. -/

namespace TapeMachine

/-- Reading undoes writing: the bytes of a code point are read as this code point, and reading goes on
behind them. -/
structure Inverts (decodeFrom : Nat → Bytes → Except DecodeFault Text)
    (encodePoint? : CodePoint → Option Bytes) : Prop where
  nil (position : Nat) : decodeFrom position [] = .ok []
  cons {c : CodePoint} {bytes : Bytes} (h : encodePoint? c = some bytes) (position : Nat) (rest : Bytes) :
    decodeFrom position (bytes ++ rest) = (decodeFrom (position + bytes.length) rest).map (c :: ·)

theorem Inverts.decodeFrom_flatten {decodeFrom : Nat → Bytes → Except DecodeFault Text}
    {encodePoint? : CodePoint → Option Bytes} (h : Inverts decodeFrom encodePoint?) {t : Text}
    {pieces : List Bytes} (hpieces : t.mapM encodePoint? = some pieces) (position : Nat) :
    decodeFrom position pieces.flatten = .ok t := by
  induction t generalizing pieces position with
  | nil =>
      obtain rfl : [] = pieces := Option.some.inj hpieces
      exact h.nil position
  | cons c t ih =>
      rw [List.mapM_cons, Option.bind_eq_bind, Option.bind_eq_some_iff] at hpieces
      obtain ⟨bytes, hbytes, hrest⟩ := hpieces
      rw [Option.bind_eq_bind, Option.bind_eq_some_iff] at hrest
      obtain ⟨others, hothers, hpieces⟩ := hrest
      obtain rfl : bytes :: others = pieces := Option.some.inj hpieces
      rw [List.flatten_cons, h.cons hbytes, ih hothers]
      rfl

namespace Utf8

/-- A byte that carries six bits of a number. -/
def tail (n : Nat) : UInt8 :=
  .ofNat (0x80 + n % 0x40)

/-- The bytes of the last six bits of a number, as often as asked for. -/
def tails : (following : Nat) → Nat → Bytes
  | 0, _ => []
  | following + 1, n => tail (n / 0x40 ^ following) :: tails following n

theorem length_tails (following n : Nat) : (tails following n).length = following := by
  induction following with
  | zero => rfl
  | succ following ih => rw [tails, List.length_cons, ih]

theorem toNat_tail (n : Nat) : (tail n).toNat = 0x80 + n % 0x40 := by
  rw [tail, UInt8.toNat_ofNat']
  omega

theorem div_pow_succ (n k : Nat) : n / 0x40 ^ (k + 1) * 0x40 + n / 0x40 ^ k % 0x40 = n / 0x40 ^ k := by
  rw [Nat.pow_succ, ← Nat.div_div_eq_div_mul]
  omega

theorem follow_tail {bits least greatest k n m : Nat} {rest : Bytes} (hleast : least ≤ 0x80 + m % 0x40)
    (hgreatest : 0x80 + m % 0x40 ≤ greatest)
    (h : follow (bits * 0x40 + m % 0x40) 0x80 0xBF k rest = .ok n) :
    follow bits least greatest (k + 1) (tail m :: rest) = .ok n := by
  have hrange : least ≤ (tail m).toNat ∧ (tail m).toNat ≤ greatest := by
    rw [toNat_tail]
    exact ⟨hleast, hgreatest⟩
  rw [follow, if_pos hrange, toNat_tail, Nat.add_sub_cancel_left, h]

/-- From the bits of a number that stand before some six bits, these are read up to the whole number. -/
theorem follow_tails (n k : Nat) (rest : Bytes) :
    follow (n / 0x40 ^ k) 0x80 0xBF k (tails k n ++ rest) = .ok n := by
  induction k with
  | zero => rw [Nat.pow_zero, Nat.div_one, follow]
  | succ k ih =>
      refine follow_tail (by omega) (by omega) ?_
      rw [div_pow_succ]
      exact ih

/-- The promise of a first byte fits a number: it holds the bits before the six bits of all bytes that
follow, and allows the byte after it. -/
structure Lead.Announces (lead : Lead) (k n : Nat) : Prop where
  following_eq : lead.following = k + 1
  bits_eq : lead.bits = n / 0x40 ^ (k + 1)
  least_le : lead.least ≤ 0x80 + n / 0x40 ^ k % 0x40
  le_greatest : 0x80 + n / 0x40 ^ k % 0x40 ≤ lead.greatest

theorem first_of_announces {b : UInt8} {lead : Lead} {k : Nat} {c : CodePoint} (hb : 0x80 ≤ b.toNat)
    (hlead : lead? b.toNat = some lead) (h : lead.Announces k c.val) (rest : Bytes) :
    first b (tails (k + 1) c.val ++ rest) = .ok (c, k + 1) := by
  have hfollow : follow lead.bits lead.least lead.greatest lead.following (tails (k + 1) c.val ++ rest) =
      .ok c.val := by
    rw [h.following_eq, h.bits_eq]
    refine follow_tail h.least_le h.le_greatest ?_
    rw [div_pow_succ]
    exact follow_tails c.val k rest
  have hc : CodePoint.ofNat c.val = c := CodePoint.ext (CodePoint.val_ofNat c.isLt)
  rw [first, if_neg (Nat.not_lt.mpr hb), hlead]
  simp only [hfollow, hc]
  rw [h.following_eq]

variable {n : Nat}

theorem exists_lead_two (hlow : 0x80 ≤ n) (hhigh : n < 0x800) :
    ∃ lead, lead? (0xC0 + n / 0x40) = some lead ∧ lead.Announces 0 n := by
  rw [lead?, if_neg (by omega), if_pos (by omega)]
  refine ⟨_, rfl, rfl, ?_, ?_, ?_⟩ <;> dsimp only <;> omega

theorem exists_lead_three (hlow : 0x800 ≤ n) (hhigh : n < 0x10000) (hsurrogate : n < 0xD800 ∨ 0xDFFF < n) :
    ∃ lead, lead? (0xE0 + n / 0x1000) = some lead ∧ lead.Announces 1 n := by
  unfold lead?
  split_ifs <;> try omega
  all_goals refine ⟨_, rfl, rfl, ?_, ?_, ?_⟩ <;> dsimp only <;> omega

theorem exists_lead_four (hlow : 0x10000 ≤ n) (hhigh : n < 0x110000) :
    ∃ lead, lead? (0xF0 + n / 0x40000) = some lead ∧ lead.Announces 2 n := by
  unfold lead?
  split_ifs <;> try omega
  all_goals refine ⟨_, rfl, rfl, ?_, ?_, ?_⟩ <;> dsimp only <;> omega

/-- The first byte of a code point announces all others. -/
theorem first_of_encodePoint? {c : CodePoint} {bytes : Bytes} (h : encodePoint? c = some bytes)
    (rest : Bytes) :
    ∃ b others, bytes = b :: others ∧ first b (others ++ rest) = .ok (c, others.length) := by
  have hbound := c.isLt
  have hbyte {m : Nat} (hm : m < 0x100) : (UInt8.ofNat m).toNat = m := by
    rw [UInt8.toNat_ofNat']
    omega
  have hmore {m k : Nat} {lead : Lead} (hm : 0x80 ≤ m) (hmax : m < 0x100) (hlead : lead? m = some lead)
      (hannounces : lead.Announces k c.val) :
      first (.ofNat m) (tails (k + 1) c.val ++ rest) = .ok (c, (tails (k + 1) c.val).length) := by
    rw [length_tails]
    exact first_of_announces (by rwa [hbyte hmax]) (by rwa [hbyte hmax]) hannounces rest
  rw [encodePoint?] at h
  split_ifs at h with hone htwo hsurrogate hthree <;> obtain rfl := Option.some.inj h
  · refine ⟨_, [], rfl, ?_⟩
    rw [first, hbyte (by omega), if_pos hone]
    exact congrArg (fun d => Except.ok (d, 0)) (CodePoint.ext (CodePoint.val_ofNat hbound))
  · obtain ⟨lead, hlead, hannounces⟩ := exists_lead_two (Nat.le_of_not_lt hone) htwo
    have hbytes : tails 1 c.val = [tail c.val] := by simp [tails]
    exact ⟨_, _, rfl, hbytes ▸ hmore (by omega) (by omega) hlead hannounces⟩
  · obtain ⟨lead, hlead, hannounces⟩ := exists_lead_three (Nat.le_of_not_lt htwo) hthree
      ((CodePoint.isSurrogate_eq_false_iff c).mp (Bool.not_eq_true _ ▸ hsurrogate))
    have hbytes : tails 2 c.val = [tail (c.val / 0x40), tail c.val] := by simp [tails]
    exact ⟨_, _, rfl, hbytes ▸ hmore (by omega) (by omega) hlead hannounces⟩
  · obtain ⟨lead, hlead, hannounces⟩ := exists_lead_four (Nat.le_of_not_lt hthree) hbound
    have hbytes : tails 3 c.val = [tail (c.val / 0x1000), tail (c.val / 0x40), tail c.val] := by
      simp [tails]
    exact ⟨_, _, rfl, hbytes ▸ hmore (by omega) (by omega) hlead hannounces⟩

theorem inverts : Inverts decodeFrom encodePoint? where
  nil position := by rw [decodeFrom]
  cons {c bytes} h position rest := by
    obtain ⟨b, others, rfl, hfirst⟩ := first_of_encodePoint? h rest
    rw [List.cons_append, decodeFrom, hfirst]
    simp only [List.drop_left, List.length_cons]
    rw [Nat.add_assoc, Nat.add_comm 1]
    cases decodeFrom (position + (others.length + 1)) rest <;> rfl

end Utf8

namespace Utf16

variable {position : Nat} {c : CodePoint}

theorem decodeFrom_unit {u : CodeUnit} (h : ¬ u.toCodePoint.isSurrogate = true) (rest : Bytes) :
    decodeFrom position (unitBytes u ++ rest) =
      (decodeFrom (position + 2) rest).map (u.toCodePoint :: ·) := by
  rw [unitBytes, List.cons_append, List.cons_append, List.nil_append, decodeFrom.eq_def]
  simp only [unit_unitBytes, h]
  cases decodeFrom (position + 2) rest <;> rfl

theorem decodeFrom_pair {high low : CodeUnit} (h : CodeUnit.pair? high low = some c) (rest : Bytes) :
    decodeFrom position (unitBytes high ++ (unitBytes low ++ rest)) =
      (decodeFrom (position + 4) rest).map (c :: ·) := by
  obtain ⟨hhigh, -, -⟩ := CodeUnit.bounds_of_pair? h
  have hlow := CodePoint.not_isLowSurrogate_of_isHighSurrogate hhigh
  have hsurrogate : high.toCodePoint.isSurrogate = true := by
    rw [CodePoint.isSurrogate, hhigh, Bool.true_or]
  simp only [unitBytes, List.cons_append, List.nil_append]
  rw [decodeFrom.eq_def]
  simp only [unit_unitBytes, hsurrogate, not_true_eq_false, if_false, hlow, h]
  cases decodeFrom (position + 4) rest <;> rfl

theorem inverts : Inverts decodeFrom encodePoint? where
  nil position := by rw [decodeFrom]
  cons {c bytes} h position rest := by
    rw [encodePoint?] at h
    split_ifs at h with hsurrogate
    obtain rfl := Option.some.inj h
    rcases c.codeUnits_cases with ⟨u, hu, rfl⟩ | ⟨high, low, hunits, hpair⟩
    · rw [hu, List.flatMap_singleton]
      exact decodeFrom_unit hsurrogate rest
    · rw [hunits, List.flatMap_cons, List.flatMap_singleton, List.append_assoc]
      exact decodeFrom_pair hpair rest

end Utf16

namespace Encoding

variable {e : Encoding} {c : CodePoint} {t u : Text} {bytes : Bytes}

theorem inverts_byteBelow {limit : Nat} {decodeFrom : Nat → Bytes → Except DecodeFault Text}
    (hlimit : limit ≤ 0x100) (hnil : ∀ position, decodeFrom position [] = .ok [])
    (hcons : ∀ position (b : UInt8) rest, b.toNat < limit →
      decodeFrom position (b :: rest) =
        (decodeFrom (position + 1) rest).map (CodePoint.ofNat b.toNat :: ·)) :
    Inverts decodeFrom (byteBelow? limit) where
  nil := hnil
  cons {c bytes} h position rest := by
    rw [byteBelow?] at h
    split_ifs at h with hc
    obtain rfl := Option.some.inj h
    have hbyte : (UInt8.ofNat c.val).toNat = c.val := by
      rw [UInt8.toNat_ofNat']
      omega
    have hpoint : CodePoint.ofNat c.val = c := CodePoint.ext (CodePoint.val_ofNat c.isLt)
    rw [List.singleton_append, hcons position _ rest (by rwa [hbyte]), hbyte, hpoint]
    rfl

theorem inverts_decodeBelow {limit : Nat} (hlimit : limit ≤ 0x100) (name : String) (reason : DecodeReason) :
    Inverts (decodeBelow name limit reason) (byteBelow? limit) := by
  refine inverts_byteBelow hlimit (fun position => by rw [decodeBelow]) fun position b rest hb => ?_
  rw [decodeBelow, if_pos hb]
  cases decodeBelow name limit reason (position + 1) rest <;> rfl

theorem inverts_latin1 :
    Inverts (fun _ bytes => .ok (bytes.map fun b => CodePoint.ofNat b.toNat)) (byteBelow? 0x100) :=
  inverts_byteBelow (Nat.le_refl _) (fun _ => rfl) fun _ _ _ _ => rfl

/-- What is written in an encoding is read in it as the same text. -/
theorem decode_encode? (he : e ≠ .utf8Marked) (h : e.encode? t = some bytes) : e.decode bytes = .ok t := by
  rw [encode?, Option.map_eq_some_iff] at h
  obtain ⟨pieces, hpieces, rfl⟩ := h
  cases e with
  | utf8 => exact Utf8.inverts.decodeFrom_flatten hpieces 0
  | utf8Marked => exact absurd rfl he
  | ascii => exact (inverts_decodeBelow (by decide) _ _).decodeFrom_flatten hpieces 0
  | latin1 => exact inverts_latin1.decodeFrom_flatten hpieces 0
  | utf16le => exact Utf16.inverts.decodeFrom_flatten hpieces 0

/-! ### What can be written -/

/-- The code points that an encoding is made for. -/
def Covers (e : Encoding) (c : CodePoint) : Prop :=
  match e with
  | utf8 | utf8Marked | utf16le => c.isSurrogate = false
  | ascii => c.val < 0x80
  | latin1 => c.val < 0x100

theorem holds_utf8_iff : utf8.holds c = true ↔ c.isSurrogate = false := by
  refine ⟨fun h => ?_, holds_utf8⟩
  rw [CodePoint.isSurrogate_eq_false_iff]
  simp only [holds, encodePoint?, Utf8.encodePoint?] at h
  split_ifs at h with hone htwo hsurrogate
  · omega
  · omega
  · cases h
  · exact (CodePoint.isSurrogate_eq_false_iff c).mp (Bool.not_eq_true _ ▸ hsurrogate)
  · exact (CodePoint.isSurrogate_eq_false_iff c).mp (Bool.not_eq_true _ ▸ hsurrogate)

theorem holds_iff_covers : e.holds c = true ↔ e.Covers c := by
  cases e with
  | utf8 => exact holds_utf8_iff
  | utf8Marked => exact holds_utf8_iff
  | ascii => simp [holds, encodePoint?, byteBelow?, Covers]
  | latin1 => simp [holds, encodePoint?, byteBelow?, Covers]
  | utf16le => simp [holds, encodePoint?, Utf16.encodePoint?, Covers]

theorem exists_encode? (h : ∀ c ∈ t, e.Covers c) : ∃ bytes, e.encode? t = some bytes := by
  suffices hpieces : ∃ pieces, t.mapM e.encodePoint? = some pieces by
    obtain ⟨pieces, hpieces⟩ := hpieces
    exact ⟨pieces.flatten, by rw [encode?, hpieces, Option.map_some]⟩
  induction t with
  | nil => exact ⟨[], rfl⟩
  | cons c t ih =>
      obtain ⟨hc, ht⟩ := List.forall_mem_cons.mp h
      obtain ⟨bytes, hbytes⟩ := Option.isSome_iff_exists.mp (holds_iff_covers.mpr hc)
      obtain ⟨pieces, hpieces⟩ := ih ht
      exact ⟨bytes :: pieces, by rw [List.mapM_cons, hbytes, hpieces]; rfl⟩

theorem encode?_append {front back : Bytes} (ht : e.encode? t = some front) (hu : e.encode? u = some back) :
    e.encode? (t ++ u) = some (front ++ back) := by
  rw [encode?, Option.map_eq_some_iff] at ht hu
  obtain ⟨pieces, hpieces, rfl⟩ := ht
  obtain ⟨others, hothers, rfl⟩ := hu
  rw [encode?, List.mapM_append, hpieces, hothers]
  exact congrArg some List.flatten_append

end Encoding

end TapeMachine
