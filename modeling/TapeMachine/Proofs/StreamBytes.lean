import TapeMachine.Proofs.RoundTrip
import TapeMachine.Sink.Stream

/-! What streams hold. A code point that an encoding is not made for is written as an escape, and an
escape is made of code points that every encoding is made for. So writing never fails, the bytes on a
stream are read as the texts with their escapes, and a text that has its escapes already is written as
it is. -/

namespace TapeMachine

namespace Numeral

/-- The value of a hexadecimal digit in lower case. -/
def hexValue? (c : CodePoint) : Option Nat :=
  if 0x30 ≤ c.val ∧ c.val ≤ 0x39 then some (c.val - 0x30)
  else if 0x61 ≤ c.val ∧ c.val ≤ 0x66 then some (c.val - 0x57)
  else none

/-- The number that hexadecimal digits spell. -/
def readHex? (t : Text) : Option Nat :=
  t.foldlM (fun n c => (hexValue? c).map (0x10 * n + ·)) 0

theorem hexValue?_hexDigit (d : Nat) : hexValue? (hexDigit d) = some (d % 0x10) := by
  rw [hexDigit]
  split
  · rw [hexValue?, if_pos (by dsimp only; omega)]
    exact congrArg some (Nat.add_sub_cancel_left ..)
  · rw [hexValue?, if_neg (by dsimp only; omega), if_pos (by dsimp only; omega)]
    exact congrArg some (Nat.add_sub_cancel_left ..)

theorem readHex?_hex (width n : Nat) : readHex? (hex width n) = some (n % 0x10 ^ width) := by
  induction width generalizing n with
  | zero =>
      rw [Nat.pow_zero, Nat.mod_one]
      rfl
  | succ width ih =>
      have hlast : n % 0x10 ^ (width + 1) = 0x10 * (n / 0x10 % 0x10 ^ width) + n % 0x10 := by
        rw [Nat.pow_succ', Nat.mod_mul, Nat.add_comm]
      unfold readHex? at ih ⊢
      rw [hex, List.foldlM_append, ih, hlast]
      simp [hexValue?_hexDigit]

theorem length_hex (width n : Nat) : (hex width n).length = width := by
  induction width generalizing n with
  | zero => rfl
  | succ width ih => rw [hex, List.length_append, ih, List.length_singleton]

theorem val_hexDigit_lt (d : Nat) : (hexDigit d).val < 0x80 := by
  rw [hexDigit]
  split <;> dsimp only <;> omega

theorem val_lt_of_mem_hex {width n : Nat} {c : CodePoint} (h : c ∈ hex width n) : c.val < 0x80 := by
  induction width generalizing n with
  | zero => exact absurd h List.not_mem_nil
  | succ width ih =>
      rcases List.mem_append.mp h with hfront | hlast
      · exact ih hfront
      · rw [List.mem_singleton.mp hlast]
        exact val_hexDigit_lt n

end Numeral

namespace CodePoint

variable {c d : CodePoint} {t : Text}

/-- A text names a code point: a backslash, a letter for the number of digits, and as many hexadecimal
digits in lower case as are needed of two, four and eight. -/
def IsEscape (c : CodePoint) (t : Text) : Prop :=
  ∃ (letter : Char) (digits : Text), t = backslash :: ofChar letter :: digits ∧
    Numeral.readHex? digits = some c.val ∧
    (letter, digits.length) = if c.val < 0x100 then ('x', 2) else if c.val < 0x10000 then ('u', 4) else ('U', 8)

theorem isEscape_escape (c : CodePoint) : c.IsEscape c.escape := by
  have hupper := c.isLt
  have hread {width : Nat} (h : c.val < 0x10 ^ width) :
      Numeral.readHex? (Numeral.hex width c.val) = some c.val := by
    rw [Numeral.readHex?_hex, Nat.mod_eq_of_lt h]
  rw [escape]
  split_ifs with htwo hfour
  · exact ⟨'x', _, rfl, hread htwo, by rw [Numeral.length_hex, if_pos htwo]⟩
  · exact ⟨'u', _, rfl, hread hfour, by rw [Numeral.length_hex, if_neg htwo, if_pos hfour]⟩
  · exact ⟨'U', _, rfl, hread (by omega), by rw [Numeral.length_hex, if_neg htwo, if_neg hfour]⟩

theorem val_lt_of_mem_escape (h : d ∈ c.escape) : d.val < 0x80 := by
  have hdigits {letter : Char} {width : Nat} (hletter : letter.toNat < 0x80)
      (hmem : d ∈ backslash :: ofChar letter :: Numeral.hex width c.val) : d.val < 0x80 := by
    rcases List.mem_cons.mp hmem with rfl | hmem
    · decide
    · rcases List.mem_cons.mp hmem with rfl | hmem
      · exact hletter
      · exact Numeral.val_lt_of_mem_hex hmem
  rw [escape] at h
  split_ifs at h
  · exact hdigits (by decide) h
  · exact hdigits (by decide) h
  · exact hdigits (by decide) h

end CodePoint

namespace Encoding

variable {e : Encoding} {c : CodePoint} {t : Text}

/-- A text as an encoding can write it: what it is made for is kept, and all else is escaped. -/
inductive Escapes (e : Encoding) : Text → Text → Prop where
  | nil : Escapes e [] []
  | keep {c : CodePoint} {t u : Text} (hc : e.Covers c) (ht : Escapes e t u) : Escapes e (c :: t) (c :: u)
  | replace {c : CodePoint} {name t u : Text} (hc : ¬ e.Covers c) (hname : c.IsEscape name)
      (ht : Escapes e t u) : Escapes e (c :: t) (name ++ u)

theorem escape_cons_of_covers (h : e.Covers c) (t : Text) : e.escape (c :: t) = c :: e.escape t := by
  rw [escape, Text.escapeUnless, List.flatMap_cons, if_pos (holds_iff_covers.mpr h)]
  rfl

theorem escape_cons_of_not_covers (h : ¬ e.Covers c) (t : Text) :
    e.escape (c :: t) = c.escape ++ e.escape t := by
  rw [escape, Text.escapeUnless, List.flatMap_cons, if_neg fun hc => h (holds_iff_covers.mp hc)]
  rfl

theorem escapes_escape (e : Encoding) (t : Text) : e.Escapes t (e.escape t) := by
  induction t with
  | nil => exact .nil
  | cons c t ih =>
      by_cases hc : e.Covers c
      · rw [escape_cons_of_covers hc]
        exact .keep hc ih
      · rw [escape_cons_of_not_covers hc]
        exact .replace hc c.isEscape_escape ih

theorem covers_of_lt (h : c.val < 0x80) : e.Covers c := by
  have hsurrogate : c.isSurrogate = false := (CodePoint.isSurrogate_eq_false_iff c).mpr (by omega)
  cases e with
  | utf8 => exact hsurrogate
  | utf8Marked => exact hsurrogate
  | utf16le => exact hsurrogate
  | ascii => exact h
  | latin1 => exact Nat.lt_trans h (by decide)

/-- Escaping leaves nothing that would have to be escaped. -/
theorem covers_of_mem_escape (h : c ∈ e.escape t) : e.Covers c := by
  induction t with
  | nil => exact absurd h List.not_mem_nil
  | cons d t ih =>
      by_cases hd : e.Covers d
      · rw [escape_cons_of_covers hd] at h
        rcases List.mem_cons.mp h with rfl | hmem
        · exact hd
        · exact ih hmem
      · rw [escape_cons_of_not_covers hd] at h
        rcases List.mem_append.mp h with hescape | hmem
        · exact covers_of_lt (CodePoint.val_lt_of_mem_escape hescape)
        · exact ih hmem

theorem escape_escape (e : Encoding) (t : Text) : e.escape (e.escape t) = e.escape t :=
  escape_eq_self fun _ h => holds_iff_covers.mpr (covers_of_mem_escape h)

/-! ### The way through bytes -/

/-- The bytes of a code point, or those of its escape. -/
def encodeEscaping? (e : Encoding) (c : CodePoint) : Option Bytes :=
  match e.encodePoint? c with
  | some bytes => some bytes
  | none => e.encode? c.escape

/-- What a stream of bytes holds after one more text. The text is encoded with escapes and read back
before it is written with a newline behind it. -/
def renderBytes? (e : Encoding) (written : Bytes) (t : Text) : Option Bytes :=
  match t.mapM e.encodeEscaping? with
  | none => none
  | some pieces =>
    match e.decode pieces.flatten with
    | .error _ => none
    | .ok fitted => (e.encode? (fitted ++ [Text.newline])).map (written ++ ·)

theorem exists_encodeEscaping? (e : Encoding) (c : CodePoint) :
    ∃ bytes, e.encodeEscaping? c = some bytes ∧ e.encode? (e.escape [c]) = some bytes := by
  by_cases hc : e.Covers c
  · obtain ⟨bytes, hbytes⟩ := Option.isSome_iff_exists.mp (holds_iff_covers.mpr hc)
    refine ⟨bytes, by rw [encodeEscaping?, hbytes], ?_⟩
    rw [escape_cons_of_covers hc, encode?]
    simp [escape, Text.escapeUnless, hbytes]
  · have hnone : e.encodePoint? c = none := by
      rw [← Option.not_isSome_iff_eq_none]
      exact fun h => hc (holds_iff_covers.mp h)
    obtain ⟨bytes, hbytes⟩ :=
      exists_encode? (e := e) fun _ hd => covers_of_lt (CodePoint.val_lt_of_mem_escape (c := c) hd)
    refine ⟨bytes, by rw [encodeEscaping?, hnone, hbytes], ?_⟩
    rw [escape_cons_of_not_covers hc]
    simpa [escape, Text.escapeUnless] using hbytes

/-- Encoding with escapes writes what encoding the escaped text does. -/
theorem exists_mapM_encodeEscaping? (e : Encoding) (t : Text) :
    ∃ pieces, t.mapM e.encodeEscaping? = some pieces ∧ e.encode? (e.escape t) = some pieces.flatten := by
  induction t with
  | nil => exact ⟨[], rfl, rfl⟩
  | cons c t ih =>
      obtain ⟨bytes, hbytes, hescape⟩ := e.exists_encodeEscaping? c
      obtain ⟨pieces, hpieces, hrest⟩ := ih
      refine ⟨bytes :: pieces, by rw [List.mapM_cons, hbytes, hpieces]; rfl, ?_⟩
      calc e.encode? (e.escape (c :: t)) = e.encode? (e.escape [c] ++ e.escape t) := by
            simp only [escape, Text.escapeUnless, List.flatMap_cons, List.flatMap_nil, List.append_nil]
        _ = some (bytes ++ pieces.flatten) := encode?_append hescape hrest

theorem renderBytes?_eq (he : e ≠ .utf8Marked) (written : Bytes) (t : Text) :
    e.renderBytes? written t = (e.encode? (e.escape t ++ [Text.newline])).map (written ++ ·) := by
  obtain ⟨pieces, hpieces, hescape⟩ := e.exists_mapM_encodeEscaping? t
  rw [renderBytes?, hpieces]
  simp only [decode_encode? he hescape]

/-- What texts are on a stream: with their escapes, and a newline behind each. -/
def rendered (e : Encoding) (texts : List Text) : Text :=
  texts.flatMap fun t => e.escape t ++ [Text.newline]

theorem covers_rendered (e : Encoding) (texts : List Text) : ∀ c ∈ e.rendered texts, e.Covers c := by
  intro c h
  obtain ⟨t, -, hmem⟩ := List.mem_flatMap.mp h
  rcases List.mem_append.mp hmem with hescape | hnewline
  · exact covers_of_mem_escape hescape
  · rw [List.mem_singleton.mp hnewline]
    exact covers_of_lt (by decide)

/-- What is on a stream of bytes after one more text is followed by the bytes of the others. -/
theorem foldlM_renderBytes? (he : e ≠ .utf8Marked) {texts : List Text} {bytes : Bytes}
    (h : e.encode? (e.rendered texts) = some bytes) (written : Bytes) :
    texts.foldlM e.renderBytes? written = some (written ++ bytes) := by
  induction texts generalizing written bytes with
  | nil =>
      obtain rfl : [] = bytes := Option.some.inj h
      rw [List.append_nil]
      rfl
  | cons t texts ih =>
      obtain ⟨front, hfront⟩ := exists_encode? (e.covers_rendered [t])
      obtain ⟨back, hback⟩ := exists_encode? (e.covers_rendered texts)
      obtain rfl : front ++ back = bytes := by
        rw [← Option.some.injEq, ← encode?_append hfront hback, ← h, rendered, rendered, rendered,
          ← List.flatMap_append, List.singleton_append]
      have hone : e.renderBytes? written t = some (written ++ front) := by
        rw [rendered, List.flatMap_singleton] at hfront
        rw [renderBytes?_eq he, hfront, Option.map_some]
      rw [List.foldlM_cons, hone, ← List.append_assoc]
      exact ih hback _

end Encoding

namespace Stream

variable {e : Encoding} {t : Text}

theorem foldl_render (stream : Stream) (texts : List Text) :
    texts.foldl render stream =
      { stream with
        written := stream.written ++ texts.flatMap fun t => stream.fit t ++ [Text.newline] } := by
  induction texts generalizing stream with
  | nil => simp
  | cons t texts ih =>
      rw [List.foldl_cons, ih, List.flatMap_cons, ← List.append_assoc, ← List.append_assoc]
      rfl

/-- Rendering texts on a stream never fails, neither on the way through its bytes nor at the end, and the
bytes on it are read as the texts with their escapes, each with a newline behind it. An escape stands for
just what the encoding is not made for, so what has been escaped before is rendered as it is. A stream
without an encoding holds the texts themselves. -/
theorem render_decodes (he : e ≠ .utf8Marked) (texts : List Text) :
    (∃ bytes, (texts.foldl render ⟨some e, []⟩).bytes? = some bytes ∧
      texts.foldlM e.renderBytes? [] = some bytes ∧
      e.decode bytes = .ok (texts.flatMap fun t => e.escape t ++ [Text.newline])) ∧
    (∀ t, e.Escapes t (e.escape t)) ∧ (∀ t, e.escape (e.escape t) = e.escape t) ∧
    (∀ written t, render ⟨some e, written⟩ (e.escape t) = ⟨some e, written ++ e.escape t ++ [Text.newline]⟩) ∧
    texts.foldl render ⟨none, []⟩ = ⟨none, texts.flatMap (· ++ [Text.newline])⟩ := by
  refine ⟨?_, e.escapes_escape, e.escape_escape, fun written t => ?_, foldl_render _ texts⟩
  · obtain ⟨bytes, hbytes⟩ := Encoding.exists_encode? (e.covers_rendered texts)
    refine ⟨bytes, ?_, Encoding.foldlM_renderBytes? he hbytes [], Encoding.decode_encode? he hbytes⟩
    rw [foldl_render]
    exact hbytes
  · change (⟨some e, written ++ e.escape (e.escape t) ++ [Text.newline]⟩ : Stream) = _
    rw [e.escape_escape]

/-- A stream in an encoding of single bytes, on which a letter is kept, and half of a pair and a character
above the first plane are escaped. -/
theorem render_decodes_latin1 :
    Encoding.latin1 ≠ .utf8Marked ∧
      ∃ bytes, ([[.ofNat 0xE9, .ofNat 0xD83D], [.ofNat 0x1F600]].foldl render ⟨some .latin1, []⟩).bytes? =
          some bytes ∧
        Encoding.latin1.decode bytes = .ok (.ofNat 0xE9 :: Text.ofString "\\ud83d\n\\U0001f600\n") := by
  have he : Encoding.latin1 ≠ .utf8Marked := by decide
  obtain ⟨⟨bytes, hbytes, -, hdecode⟩, -⟩ :=
    render_decodes he [[.ofNat 0xE9, .ofNat 0xD83D], [.ofNat 0x1F600]]
  exact ⟨he, bytes, hbytes, hdecode.trans (congrArg Except.ok (by decide))⟩

end Stream

end TapeMachine
