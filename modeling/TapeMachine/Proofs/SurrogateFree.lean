import TapeMachine.Decimal.Places
import TapeMachine.Dump
import TapeMachine.Proofs.Lines
import TapeMachine.Script

/-! Texts without surrogates. Such a text is written as it is, nothing in it being escaped. What is read
from a file is of this kind, and so is every message about it and every text made of numbers: only an
input or an output can hold a surrogate. -/

namespace TapeMachine

namespace CodePoint

theorem isSurrogate_eq_false_iff (c : CodePoint) :
    c.isSurrogate = false ↔ c.val < 0xD800 ∨ 0xDFFF < c.val := by
  rw [isSurrogate, Bool.or_eq_false_iff, ← Bool.not_eq_true, ← Bool.not_eq_true, isHighSurrogate_iff,
    isLowSurrogate_iff]
  omega

theorem isSurrogate_ofChar (c : Char) : (ofChar c).isSurrogate = false := by
  have hvalid := c.valid
  simp only [UInt32.isValidChar, Nat.isValidChar] at hvalid
  rw [isSurrogate_eq_false_iff]
  simp only [ofChar, Char.toNat]
  omega

theorem isSurrogate_ofNat {n : Nat} (h : n < 0xD800 ∨ 0xDFFF < n) : (ofNat n).isSurrogate = false := by
  rw [isSurrogate_eq_false_iff, ofNat]
  split
  · exact h
  · decide

theorem isSurrogate_of_isPrintable {c : CodePoint} (h : c.isPrintable = true) : c.isSurrogate = false := by
  have hranges : ∀ range ∈ printableRanges, range.2 < 0xD800 ∨ 0xDFFF < range.1 := by decide +kernel
  obtain ⟨range, hmem, hrange⟩ := List.any_eq_true.mp h
  rw [Bool.and_eq_true, decide_eq_true_eq, decide_eq_true_eq] at hrange
  have := hranges range hmem
  rw [isSurrogate_eq_false_iff]
  omega

end CodePoint

namespace Text

/-- No surrogate stands in the text. -/
def SurrogateFree (t : Text) : Prop := ∀ c ∈ t, c.isSurrogate = false

variable {t u : Text} {c : CodePoint}

@[simp] theorem surrogateFree_nil : SurrogateFree [] := by
  simp [SurrogateFree]

@[simp] theorem surrogateFree_cons :
    SurrogateFree (c :: t) ↔ c.isSurrogate = false ∧ SurrogateFree t :=
  List.forall_mem_cons

@[simp] theorem surrogateFree_append : SurrogateFree (t ++ u) ↔ SurrogateFree t ∧ SurrogateFree u :=
  List.forall_mem_append

@[simp] theorem surrogateFree_ofString (s : String) : (ofString s).SurrogateFree := by
  intro c hc
  obtain ⟨character, -, rfl⟩ := List.mem_map.mp hc
  exact CodePoint.isSurrogate_ofChar character

theorem SurrogateFree.subset (h : SurrogateFree t) (hsub : u ⊆ t) : SurrogateFree u :=
  fun c hc => h c (hsub hc)

@[simp] theorem isSurrogate_newline : newline.isSurrogate = false :=
  CodePoint.isSurrogate_ofChar _

@[simp] theorem isSurrogate_space : space.isSurrogate = false :=
  CodePoint.isSurrogate_ofChar _

theorem surrogateFree_replicate (n : Nat) (h : c.isSurrogate = false) :
    SurrogateFree (List.replicate n c) := by
  intro d hd
  obtain ⟨-, rfl⟩ := List.mem_replicate.mp hd
  exact h

theorem surrogateFree_flatMap {t : Text} {f : CodePoint → Text} (h : ∀ c ∈ t, SurrogateFree (f c)) :
    SurrogateFree (t.flatMap f) := by
  intro c hc
  obtain ⟨d, hd, hmem⟩ := List.mem_flatMap.mp hc
  exact h d hd c hmem

theorem surrogateFree_join {separator : Text} {parts : List Text} (hseparator : separator.SurrogateFree)
    (h : ∀ part ∈ parts, SurrogateFree part) : SurrogateFree (join separator parts) := by
  intro c hc
  rcases mem_of_mem_join hc with hmem | ⟨part, hpart, hmem⟩
  · exact hseparator c hmem
  · exact h part hpart c hmem

theorem surrogateFree_padLeft (width : Nat) (h : SurrogateFree t) : SurrogateFree (padLeft width t) :=
  surrogateFree_append.mpr ⟨surrogateFree_replicate _ isSurrogate_space, h⟩

end Text

open Text (SurrogateFree ofString surrogateFree_append surrogateFree_cons surrogateFree_flatMap
  surrogateFree_join surrogateFree_nil surrogateFree_ofString surrogateFree_replicate)

/-! ### Numbers and quotes -/

namespace Numeral

@[simp] theorem isSurrogate_digit (d : Nat) : (digit d).isSurrogate = false := by
  rw [CodePoint.isSurrogate_eq_false_iff]
  simp only [digit]
  omega

@[simp] theorem surrogateFree_ofNat (n : Nat) : (ofNat n).SurrogateFree := by
  intro c hc
  obtain ⟨d, rfl⟩ := exists_digit_of_mem_ofNat hc
  exact isSurrogate_digit d

@[simp] theorem surrogateFree_ofInt (n : Int) : (ofInt n).SurrogateFree := by
  rw [ofInt]
  split
  · exact surrogateFree_cons.mpr ⟨CodePoint.isSurrogate_ofChar _, surrogateFree_ofNat _⟩
  · exact surrogateFree_ofNat _

theorem isSurrogate_hexDigit (d : Nat) : (hexDigit d).isSurrogate = false := by
  rw [CodePoint.isSurrogate_eq_false_iff, hexDigit]
  split <;> simp only <;> omega

@[simp] theorem surrogateFree_hex (width n : Nat) : (hex width n).SurrogateFree := by
  induction width generalizing n with
  | zero => exact surrogateFree_nil
  | succ width ih =>
      rw [hex, surrogateFree_append, surrogateFree_cons]
      exact ⟨ih (n / 16), isSurrogate_hexDigit n, surrogateFree_nil⟩

end Numeral

@[simp] theorem CodePoint.surrogateFree_escape (c : CodePoint) : c.escape.SurrogateFree := by
  have hdigits (letter : Char) (width : Nat) :
      SurrogateFree (backslash :: ofChar letter :: Numeral.hex width c.val) := by
    simp only [surrogateFree_cons, backslash, isSurrogate_ofChar, Numeral.surrogateFree_hex, and_self]
  rw [escape]
  split
  · exact hdigits 'x' 2
  · split
    · exact hdigits 'u' 4
    · exact hdigits 'U' 8

namespace Text

theorem isSurrogate_quoteFor (t : Text) : (quoteFor t).isSurrogate = false := by
  rw [quoteFor]
  split <;> exact CodePoint.isSurrogate_ofChar _

theorem surrogateFree_quotePoint {quote : CodePoint} (hquote : quote.isSurrogate = false)
    (c : CodePoint) : (quotePoint quote c).SurrogateFree := by
  have hbackslash : CodePoint.backslash.isSurrogate = false := CodePoint.isSurrogate_ofChar _
  have hescaped {d : CodePoint} (h : d.isSurrogate = false) : SurrogateFree [.backslash, d] := by
    simp only [surrogateFree_cons, hbackslash, h, surrogateFree_nil, and_self]
  rw [quotePoint]
  split_ifs with hspecial hnewline hreturn htab hprintable
  · refine hescaped ?_
    rcases hspecial with rfl | rfl
    · exact hquote
    · exact hbackslash
  · exact hescaped (CodePoint.isSurrogate_ofChar _)
  · exact hescaped (CodePoint.isSurrogate_ofChar _)
  · exact hescaped (CodePoint.isSurrogate_ofChar _)
  · exact surrogateFree_cons.mpr ⟨CodePoint.isSurrogate_of_isPrintable hprintable, surrogateFree_nil⟩
  · exact c.surrogateFree_escape

/-- Quoting escapes all surrogates. -/
@[simp] theorem surrogateFree_quoted (t : Text) : t.quoted.SurrogateFree := by
  have hquote := isSurrogate_quoteFor t
  simp only [quoted, surrogateFree_append, surrogateFree_cons, hquote, surrogateFree_nil, and_true, true_and]
  exact surrogateFree_flatMap fun c _ => surrogateFree_quotePoint hquote c

/-! ### Sources and faults -/

variable {t : Text}

theorem SurrogateFree.line {source : Text} (h : source.SurrogateFree) (number : Nat) :
    (source.line number).SurrogateFree := by
  rw [Text.line, List.getD_eq_getElem?_getD]
  cases hline : source.lines[number - 1]? with
  | none => exact surrogateFree_nil
  | some found => exact h.subset (subset_of_mem_splitAt (List.mem_of_getElem? hline))

theorem SurrogateFree.excerpt {source : Text} (h : source.SurrogateFree) (position : Int) :
    (source.excerpt position).SurrogateFree := by
  simp only [Text.excerpt, gutter, surrogateFree_append, surrogateFree_cons, surrogateFree_ofString,
    isSurrogate_newline, true_and, and_true]
  exact ⟨⟨surrogateFree_padLeft 4 (Numeral.surrogateFree_ofNat _), h.line _⟩,
    surrogateFree_replicate 7 isSurrogate_space, surrogateFree_replicate _ isSurrogate_space⟩

theorem SurrogateFree.strip (h : SurrogateFree t) : t.strip.SurrogateFree :=
  h.subset (List.filter_sublist.subset)

theorem SurrogateFree.unifyLineEnds (h : SurrogateFree t) : t.unifyLineEnds.SurrogateFree := by
  fun_induction Text.unifyLineEnds t with
  | case1 => exact h
  | case2 => simp only [surrogateFree_cons, isSurrogate_newline, surrogateFree_nil, and_self]
  | case3 => exact h
  | case4 rest ih =>
      obtain ⟨-, hnewline, hrest⟩ := by simpa only [surrogateFree_cons] using h
      exact surrogateFree_cons.mpr ⟨hnewline, ih hrest⟩
  | case5 d rest hd ih =>
      exact surrogateFree_cons.mpr ⟨isSurrogate_newline, ih (surrogateFree_cons.mp h).2⟩
  | case6 c d rest hc ih =>
      obtain ⟨hfirst, hrest⟩ := surrogateFree_cons.mp h
      exact surrogateFree_cons.mpr ⟨hfirst, ih hrest⟩

theorem surrogateFree_withHint {hint : Option Text} (h : SurrogateFree t)
    (hhint : ∀ wording ∈ hint, SurrogateFree wording) : (t.withHint hint).SurrogateFree := by
  cases hint with
  | none => exact h
  | some wording =>
      cases wording with
      | nil => exact h
      | cons first rest =>
          change SurrogateFree (t ++ newline :: ofString "Hint: " ++ (first :: rest))
          rw [surrogateFree_append, surrogateFree_append, surrogateFree_cons]
          exact ⟨⟨h, isSurrogate_newline, surrogateFree_ofString _⟩, hhint _ rfl⟩

end Text

@[simp] theorem Hint.surrogateFree_wording (hint : Hint) : hint.wording.SurrogateFree := by
  cases hint with
  | onlyInstructions =>
      have hsymbols : SurrogateFree (Text.join [Text.space] (Instruction.symbols.map ([·]))) := by
        rw [SurrogateFree]
        decide
      simp only [wording, surrogateFree_append, surrogateFree_ofString, hsymbols, and_self]
  | whitespace => exact surrogateFree_ofString _
  | comment => exact surrogateFree_ofString _
  | balance => exact surrogateFree_ofString _
  | matching => exact surrogateFree_ofString _

namespace Fault

/-- The texts that a fault takes over as they are. -/
def excerpt? : Fault → Option Text
  | invalidInstruction _ _ _ excerpt => some excerpt
  | unbalancedLoop _ excerpt => some excerpt
  | _ => none

theorem surrogateFree_statement {fault : Fault} (h : ∀ excerpt ∈ fault.excerpt?, SurrogateFree excerpt) :
    fault.statement.SurrogateFree := by
  cases fault with
  | invalidInstruction symbol position place excerpt =>
      simp [statement, h excerpt rfl]
  | pointerRange pointer position cursor tapeLength =>
      have hlabelled (label : String) (n : Int) :
          SurrogateFree (Text.newline :: ofString label ++ Numeral.ofInt n) := by simp
      simp only [statement, surrogateFree_append]
      refine ⟨⟨⟨⟨⟨surrogateFree_ofString _, ?_⟩, hlabelled _ pointer⟩, hlabelled _ position⟩,
        hlabelled _ cursor⟩, hlabelled _ tapeLength⟩
      split <;> simp
  | unbalancedLoop position excerpt => simp [statement, h excerpt rfl]
  | missingItem => exact surrogateFree_ofString _
  | missingCell => exact surrogateFree_ofString _
  | missingSymbol => exact surrogateFree_ofString _
  | notAddressable => exact surrogateFree_ofString _

theorem surrogateFree_message {fault : Fault} (h : ∀ excerpt ∈ fault.excerpt?, SurrogateFree excerpt) :
    fault.message.SurrogateFree := by
  refine Text.surrogateFree_withHint (surrogateFree_statement h) fun wording hwording => ?_
  obtain ⟨hint, -, rfl⟩ := Option.map_eq_some_iff.mp hwording
  exact hint.surrogateFree_wording

theorem surrogateFree_message_ofFailure {source : Text} (h : source.SurrogateFree)
    (failure : Machine.Failure) : (ofFailure source failure).message.SurrogateFree := by
  refine surrogateFree_message fun excerpt hexcerpt => ?_
  cases failure with
  | invalidInstruction symbol position =>
      rw [ofFailure, invalidInstructionAt] at hexcerpt
      cases hsymbol : source.at? position with
      | none =>
          rw [hsymbol] at hexcerpt
          cases haddressable : Capacity.isAddressable position <;>
            simp [haddressable, excerpt?] at hexcerpt
      | some symbol =>
          rw [hsymbol] at hexcerpt
          obtain rfl : source.excerpt position = excerpt := Option.some.inj hexcerpt
          exact h.excerpt position
  | unbalancedLoop position =>
      obtain rfl : source.excerpt position = excerpt := Option.some.inj hexcerpt
      exact h.excerpt position
  | pointerRange => cases hexcerpt
  | missingItem => cases hexcerpt
  | missingCell => cases hexcerpt
  | notAddressable => cases hexcerpt

end Fault

/-! ### Files -/

namespace Utf8

theorem exists_of_follow_succ {bits least greatest k n : Nat} {bytes : Bytes}
    (h : follow bits least greatest (k + 1) bytes = .ok n) :
    ∃ b rest, least ≤ b ∧ b ≤ greatest ∧
      follow (bits * 0x40 + (b - 0x80)) 0x80 0xBF k rest = .ok n := by
  cases bytes with
  | nil => cases h
  | cons b rest =>
      rw [follow] at h
      split at h
      · next hrange =>
          refine ⟨b.toNat, rest, hrange.1, hrange.2, ?_⟩
          cases hfollow : follow (bits * 0x40 + (b.toNat - 0x80)) 0x80 0xBF k rest with
          | ok m => rwa [hfollow] at h
          | error failure =>
              rw [hfollow] at h
              cases h
      · cases h

/-- Each byte that follows adds six bits behind the others. -/
theorem follow_bounds {bits k n : Nat} {bytes : Bytes} (h : follow bits 0x80 0xBF k bytes = .ok n) :
    bits * Nat.pow 0x40 k ≤ n ∧ n < (bits + 1) * Nat.pow 0x40 k := by
  induction k generalizing bits bytes with
  | zero =>
      obtain rfl : bits = n := Except.ok.inj h
      simp
  | succ k ih =>
      obtain ⟨b, rest, hleast, hgreatest, hrest⟩ := exists_of_follow_succ h
      obtain ⟨hlow, hhigh⟩ := ih hrest
      have hpow : Nat.pow 0x40 (k + 1) = 0x40 * Nat.pow 0x40 k := Nat.mul_comm ..
      rw [hpow]
      constructor
      · calc bits * (0x40 * Nat.pow 0x40 k) = bits * 0x40 * Nat.pow 0x40 k := (Nat.mul_assoc ..).symm
          _ ≤ (bits * 0x40 + (b - 0x80)) * Nat.pow 0x40 k :=
            Nat.mul_le_mul_right _ (Nat.le_add_right ..)
          _ ≤ n := hlow
      · calc n < (bits * 0x40 + (b - 0x80) + 1) * Nat.pow 0x40 k := hhigh
          _ ≤ (bits + 1) * 0x40 * Nat.pow 0x40 k := Nat.mul_le_mul_right _ (by omega)
          _ = (bits + 1) * (0x40 * Nat.pow 0x40 k) := Nat.mul_assoc ..

/-- After a first byte no number of a surrogate can follow. -/
theorem not_surrogate_of_follow {b n : Nat} {lead : Lead} {bytes : Bytes} (hlead : lead? b = some lead)
    (h : follow lead.bits lead.least lead.greatest lead.following bytes = .ok n) :
    n < 0xD800 ∨ 0xDFFF < n := by
  rw [lead?] at hlead
  split_ifs at hlead <;> obtain rfl := Option.some.inj hlead <;>
    obtain ⟨second, rest, hleast, hgreatest, hrest⟩ := exists_of_follow_succ h <;>
    have hbounds := follow_bounds hrest <;>
    simp only [Nat.pow_eq] at hleast hgreatest hbounds <;> omega

theorem isSurrogate_of_first {b : UInt8} {rest : Bytes} {c : CodePoint} {following : Nat}
    (h : first b rest = .ok (c, following)) : c.isSurrogate = false := by
  rw [first] at h
  split at h
  · next hascii =>
      obtain ⟨rfl, -⟩ := Prod.mk.inj (Except.ok.inj h)
      exact CodePoint.isSurrogate_ofNat (by omega)
  · split at h
    · cases h
    · next lead hlead =>
        split at h
        · next n hfollow =>
            obtain ⟨rfl, -⟩ := Prod.mk.inj (Except.ok.inj h)
            exact CodePoint.isSurrogate_ofNat (not_surrogate_of_follow hlead hfollow)
        · cases h

theorem surrogateFree_decodeFrom {position : Nat} {bytes : Bytes} {t : Text}
    (h : decodeFrom position bytes = .ok t) : t.SurrogateFree := by
  induction position, bytes using decodeFrom.induct generalizing t with
  | case1 position =>
      rw [decodeFrom] at h
      obtain rfl : [] = t := Except.ok.inj h
      exact surrogateFree_nil
  | case2 position b rest c following hfirst tail htail ih =>
      rw [decodeFrom, hfirst] at h
      simp only [htail] at h
      obtain rfl : c :: tail = t := Except.ok.inj h
      exact surrogateFree_cons.mpr ⟨isSurrogate_of_first hfirst, ih htail⟩
  | case3 position b rest c following hfirst fault htail ih =>
      rw [decodeFrom, hfirst] at h
      simp only [htail] at h
      cases h
  | case4 position b rest wrong reason hfirst =>
      rw [decodeFrom, hfirst] at h
      cases h

end Utf8

@[simp] theorem DecodeFault.surrogateFree_message (fault : DecodeFault) :
    fault.message.SurrogateFree := by
  rw [message, place]
  split <;> simp

@[simp] theorem StorageFault.surrogateFree_message (fault : StorageFault) :
    fault.message.SurrogateFree := by
  have hnumbered (number : Nat) (wording : String) (path : Path) :
      SurrogateFree (ofString "[Errno " ++ Numeral.ofNat number ++ ofString "] " ++ ofString wording ++
        ofString ": " ++ path.written.quoted) := by simp
  cases fault with
  | notFound path => exact hnumbered _ _ path
  | notDirectory path => exact hnumbered _ _ path
  | isDirectory path => exact hnumbered _ _ path
  | nameTooLong path => exact hnumbered _ _ path
  | denied path => exact hnumbered _ _ path
  | device path => exact hnumbered _ _ path
  | zeroInPath => exact surrogateFree_ofString _
  | surrogatesInPath path first stop =>
      have hescapes (t : Text) : SurrogateFree (t.flatMap CodePoint.escape) :=
        surrogateFree_flatMap fun c _ => c.surrogateFree_escape
      simp only [message]
      split <;> simp [hescapes]

/-- What is loaded from a file holds no surrogates. -/
theorem Script.surrogateFree_load {read : Path → Except StorageFault Bytes} {path t : Text}
    (h : load read path (ofString "utf-8") = .ok t) : t.SurrogateFree := by
  have hutf8 : Encoding.ofName? (ofString "utf-8") = some .utf8 := by decide
  rw [load, hutf8] at h
  cases hread : read (.ofText path) with
  | error fault =>
      rw [hread] at h
      cases h
  | ok bytes =>
      simp only [hread, Encoding.decode] at h
      cases hdecode : Utf8.decode bytes with
      | error fault =>
          rw [hdecode] at h
          cases h
      | ok decoded =>
          rw [hdecode] at h
          obtain rfl : decoded.unifyLineEnds = t := Except.ok.inj h
          exact (Utf8.surrogateFree_decodeFrom hdecode).unifyLineEnds

/-- No fault of a script without surrogates is reported with one. -/
theorem Script.surrogateFree_message_of_run {steps : Nat} {code : Text} {settings : Settings}
    {fault : Fault} (hcode : code.SurrogateFree) (h : run steps code settings = .error (.fault fault)) :
    fault.message.SurrogateFree := by
  rw [run] at h
  split at h
  · cases h
  · next start _ =>
      cases hend : Machine.runFrom steps code settings.input start with
      | finished s =>
          rw [hend] at h
          cases h
      | failed failure =>
          rw [hend] at h
          obtain rfl : Fault.ofFailure code failure = fault := Problem.fault.inj (Except.error.inj h)
          exact Fault.surrogateFree_message_ofFailure hcode failure
      | unfinished configuration =>
          rw [hend] at h
          cases h

/-! ### Times and dumps -/

theorem FloatLayout.surrogateFree_sign (negative : Bool) :
    (FloatLayout.written.sign negative).SurrogateFree := by
  cases negative with
  | false => exact surrogateFree_nil
  | true => exact surrogateFree_cons.mpr ⟨CodePoint.isSurrogate_ofChar _, surrogateFree_nil⟩

@[simp] theorem Decimal.surrogateFree_withPlaces (places : Nat) (negative : Bool)
    (numerator denominator : Nat) :
    (withPlaces places negative numerator denominator).SurrogateFree := by
  have hpadded (zeros n : Nat) :
      SurrogateFree (List.replicate zeros (Numeral.digit 0) ++ Numeral.ofNat n) :=
    surrogateFree_append.mpr
      ⟨surrogateFree_replicate zeros (Numeral.isSurrogate_digit 0), Numeral.surrogateFree_ofNat n⟩
  simp only [withPlaces, surrogateFree_append, surrogateFree_ofString, and_true]
  exact ⟨⟨FloatLayout.surrogateFree_sign negative, (hpadded _ _).subset (List.take_subset _ _)⟩,
    (hpadded _ _).subset (List.drop_subset _ _)⟩

@[simp] theorem Decimal.surrogateFree_binaryWithPlaces (places : Nat) (x : Binary) :
    (binaryWithPlaces places x).SurrogateFree := by
  cases x with
  | finite negative significand exponent narrowBelow => exact surrogateFree_withPlaces _ _ _ _
  | infinite negative =>
      exact surrogateFree_append.mpr ⟨FloatLayout.surrogateFree_sign negative, surrogateFree_ofString _⟩
  | notANumber => exact surrogateFree_ofString _

@[simp] theorem Dump.surrogateFree_rows (perRow : Nat) (positive : 0 < perRow) (values : List Int) :
    (rows perRow positive values).SurrogateFree := by
  have hseparator {c : CodePoint} (h : c.isSurrogate = false) : SurrogateFree [c] :=
    surrogateFree_cons.mpr ⟨h, surrogateFree_nil⟩
  refine surrogateFree_join (hseparator Text.isSurrogate_newline) fun line hline => ?_
  obtain ⟨chunk, -, rfl⟩ := List.mem_map.mp hline
  refine surrogateFree_join (hseparator Text.isSurrogate_space) fun numeral hnumeral => ?_
  obtain ⟨n, -, rfl⟩ := List.mem_map.mp hnumeral
  exact Numeral.surrogateFree_ofInt n

/-! ### Writing -/

theorem Encoding.holds_utf8 {c : CodePoint} (h : c.isSurrogate = false) : utf8.holds c = true := by
  rw [holds, encodePoint?, Utf8.encodePoint?]
  split_ifs <;> simp_all

/-- A text is written as it is if nothing in it has to be escaped. -/
theorem Encoding.escape_eq_self {e : Encoding} {t : Text} (h : ∀ c ∈ t, e.holds c = true) :
    e.escape t = t := by
  rw [escape, Text.escapeUnless]
  induction t with
  | nil => rfl
  | cons c rest ih =>
      obtain ⟨hc, hrest⟩ := List.forall_mem_cons.mp h
      rw [List.flatMap_cons, if_pos hc, ih hrest]
      rfl

theorem Encoding.escape_utf8 {t : Text} (h : t.SurrogateFree) : utf8.escape t = t :=
  escape_eq_self fun c hc => holds_utf8 (h c hc)

end TapeMachine
