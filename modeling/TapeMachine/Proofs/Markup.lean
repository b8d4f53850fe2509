import Mathlib.Data.List.Basic
import TapeMachine.Sink.Element

/-! Rendered texts in markup. Whatever texts are rendered into an element, what the written document holds
before and behind their divisions stays the same, since a division needs no namespace. The written forms of
two divisions differ before either has come to an end, because no escaped text holds an opening bracket. So
the written document tells the rendered texts apart, their number and their order included. -/

namespace TapeMachine

open Text (ofString)

/-- Pieces of text that tell what they stand for, whatever text follows them. -/
structure SelfDelimiting {α : Type} (piece : α → Text) : Prop where
  ne_nil : ∀ a, piece a ≠ []
  eq_of_append_eq : ∀ {a b r s}, piece a ++ r = piece b ++ s → a = b ∧ r = s

theorem SelfDelimiting.eq_of_flatMap_eq {α : Type} {piece : α → Text} (h : SelfDelimiting piece)
    {xs ys : List α} (heq : xs.flatMap piece = ys.flatMap piece) : xs = ys := by
  induction xs generalizing ys with
  | nil =>
      cases ys with
      | nil => rfl
      | cons y ys => exact absurd (List.append_eq_nil_iff.mp heq.symm).1 (h.ne_nil y)
  | cons x xs ih =>
      cases ys with
      | nil => exact absurd (List.append_eq_nil_iff.mp heq).1 (h.ne_nil x)
      | cons y ys =>
          obtain ⟨rfl, hrest⟩ := h.eq_of_append_eq heq
          rw [ih hrest]

/-- Texts that are cut at the first place of a code point. -/
theorem Text.eq_of_append_cons_eq {c : CodePoint} {a b r s : Text} (ha : c ∉ a) (hb : c ∉ b)
    (h : a ++ c :: r = b ++ c :: s) : a = b ∧ r = s := by
  have hcut {t u : Text} (ht : c ∉ t) : (t ++ c :: u).takeWhile (· ≠ c) = t := by
    have hne : ∀ d ∈ t, decide (d ≠ c) = true := fun d hd => decide_eq_true fun heq => ht (heq ▸ hd)
    rw [List.takeWhile_append_of_pos hne, List.takeWhile_cons_of_neg (by simp), List.append_nil]
  have hfront : a = b := by
    calc a = (a ++ c :: r).takeWhile (· ≠ c) := (hcut ha).symm
      _ = (b ++ c :: s).takeWhile (· ≠ c) := by rw [h]
      _ = b := hcut hb
  subst hfront
  exact ⟨rfl, (List.cons.inj (List.append_cancel_left h)).2⟩

namespace Namespaces

/-- The namespaces after some more names, unless one of them opens a namespace and does not close it. -/
def meetAll? (spaces : Namespaces) (names : List Text) : Option Namespaces :=
  names.foldlM (fun spaces name => (Tag.ofText? name).map spaces.meet) spaces

theorem map_mapM_ofText? (spaces : Namespaces) (names : List Text) :
    (names.mapM Tag.ofText?).map (List.foldl meet spaces) = spaces.meetAll? names := by
  induction names generalizing spaces with
  | nil => rfl
  | cons name names ih =>
      rw [meetAll?, List.mapM_cons, List.foldlM_cons]
      cases Tag.ofText? name with
      | none => rfl
      | some tag =>
          show ((names.mapM Tag.ofText?).bind fun tags => some (tag :: tags)).map _ =
            (spaces.meet tag).meetAll? names
          rw [← ih]
          cases names.mapM Tag.ofText? <;> rfl

theorem meetAll?_append (spaces : Namespaces) (names names' : List Text) :
    spaces.meetAll? (names ++ names') = (spaces.meetAll? names).bind (meetAll? · names') :=
  List.foldlM_append

/-- Names without a namespace are no reason to meet one. -/
theorem meetAll?_plain (spaces : Namespaces) {names : List Text}
    (h : ∀ name ∈ names, Tag.ofText? name = some ⟨none, name⟩) :
    spaces.meetAll? names = some spaces := by
  induction names with
  | nil => rfl
  | cons name names ih =>
      rw [meetAll?, List.foldlM_cons, h name List.mem_cons_self]
      exact ih fun name hname => h name (List.mem_cons_of_mem _ hname)

end Namespaces

namespace Element

variable {document element : Element} {target : Target} {spaces : Namespaces} {declarations : Text}
  {texts texts' : List Text}

/-! ### Targets -/

theorem modifyAt_id (document : Element) (target : Target) : document.modifyAt id target = document := by
  induction target generalizing document with
  | nil => rfl
  | cons index rest ih =>
      have hid : (fun child => modifyAt id child rest) = id := funext ih
      rw [modifyAt, hid, List.modify_id]
      cases document
      rfl

theorem modifyAt_modifyAt (f g : Element → Element) (document : Element) (target : Target) :
    (document.modifyAt f target).modifyAt g target = document.modifyAt (g ∘ f) target := by
  induction target generalizing document with
  | nil => rfl
  | cons index rest ih =>
      have hcomp : (fun child => modifyAt g child rest) ∘ (fun child => modifyAt f child rest) =
          fun child => modifyAt (g ∘ f) child rest := funext ih
      rw [modifyAt, modifyAt, modifyAt, List.modify_modify_eq, hcomp]

theorem at?_modifyAt (f : Element → Element) (h : document.at? target = some element) :
    (document.modifyAt f target).at? target = some (f element) := by
  induction target generalizing document with
  | nil => exact congrArg (Option.map f) h
  | cons index rest ih =>
      obtain ⟨child, hchild, hrest⟩ := Option.bind_eq_some_iff.mp h
      rw [modifyAt, at?, List.getElem?_modify_eq, hchild]
      exact ih hrest

/-- The children of an element around one of them, when that one is changed. -/
theorem exists_children_modify {children : List Element} {index : Nat} {child : Element}
    (h : children[index]? = some child) :
    ∃ front back, ∀ f, children.modify index f = front ++ f child :: back := by
  obtain ⟨hindex, rfl⟩ := List.getElem?_eq_some_iff.mp h
  exact ⟨_, _, fun f => List.modify_eq_take_cons_drop hindex⟩

/-! ### Divisions behind the children of an element -/

/-- The element with a division for each text behind its children. -/
def withDivisions (element : Element) (texts : List Text) : Element :=
  { element with children := element.children ++ texts.map division }

theorem withDivisions_nil (element : Element) : element.withDivisions [] = element := by
  rw [withDivisions, List.map_nil, List.append_nil]
  cases element
  rfl

theorem render_withDivisions (element : Element) (t : Text) (texts : List Text) :
    (element.render t).withDivisions texts = element.withDivisions (t :: texts) := by
  rw [withDivisions, withDivisions, List.map_cons, List.append_cons]
  rfl

/-- The document after texts have been rendered into an element of it, one after the other. -/
def renderEach (document : Element) (target : Target) (texts : List Text) : Element :=
  texts.foldl (renderAt · target) document

theorem renderEach_eq (document : Element) (target : Target) (texts : List Text) :
    document.renderEach target texts = document.modifyAt (withDivisions · texts) target := by
  rw [renderEach]
  induction texts generalizing document with
  | nil =>
      have hid : (withDivisions · []) = id := funext withDivisions_nil
      rw [hid, modifyAt_id]
      rfl
  | cons t texts ih =>
      have hcomp : (withDivisions · texts) ∘ (render · t) = (withDivisions · (t :: texts)) :=
        funext fun e => e.render_withDivisions t texts
      rw [List.foldl_cons, ih, renderAt, modifyAt_modifyAt, hcomp]

/-! ### Names and namespaces -/

theorem namesAll_append (front back : List Element) :
    namesAll (front ++ back) = namesAll front ++ namesAll back := by
  induction front with
  | nil => rfl
  | cons e front ih => rw [List.cons_append, namesAll, namesAll, ih, List.append_assoc]

theorem exists_names_modifyAt (h : document.at? target = some element) :
    ∃ front back, ∀ f, names (document.modifyAt f target) = front ++ names (f element) ++ back := by
  induction target generalizing document with
  | nil =>
      obtain rfl : document = element := Option.some.inj h
      exact ⟨[], [], fun f => (List.append_nil _).symm⟩
  | cons index rest ih =>
      obtain ⟨child, hchild, hrest⟩ := Option.bind_eq_some_iff.mp h
      obtain ⟨before, behind, hmodify⟩ := exists_children_modify hchild
      obtain ⟨front, back, hnames⟩ := ih hrest
      refine ⟨document.tag :: document.attributes.map Prod.fst ++ namesAll before ++ front,
        back ++ namesAll behind, fun f => ?_⟩
      rw [modifyAt, names, hmodify, namesAll_append, namesAll, hnames]
      simp only [List.append_assoc, List.cons_append]

theorem names_withDivisions (element : Element) (texts : List Text) :
    names (element.withDivisions texts) =
      names element ++ texts.flatMap fun _ => [ofString "div", ofString "class"] := by
  have hdivisions : namesAll (texts.map division) =
      texts.flatMap fun _ => [ofString "div", ofString "class"] := by
    induction texts with
    | nil => rfl
    | cons t texts ih =>
        rw [List.map_cons, namesAll, ih, List.flatMap_cons]
        rfl
  cases element with
  | mk tag attributes text children tail =>
      rw [withDivisions, names, names, namesAll_append, hdivisions, List.append_assoc]

/-- The namespaces of a document, unless a name opens one and does not close it. -/
def namespaces? (document : Element) : Option Namespaces :=
  Namespaces.meetAll? [] document.names

theorem written_eq (document : Element) :
    document.written =
      match document.namespaces? with
      | none => .error .openNamespace
      | some spaces => .ok (writtenIn spaces spaces.declarations document) := by
  rw [written, namespaces?, ← Namespaces.map_mapM_ofText?]
  cases document.names.mapM Tag.ofText? <;> rfl

/-- Divisions need no namespace. -/
theorem namespaces?_renderEach (h : document.at? target = some element) (texts : List Text) :
    (document.renderEach target texts).namespaces? = document.namespaces? := by
  have hplain : ∀ name ∈ texts.flatMap fun _ => [ofString "div", ofString "class"],
      Tag.ofText? name = some ⟨none, name⟩ := by
    intro name hname
    obtain ⟨_, _, hmem⟩ := List.mem_flatMap.mp hname
    rcases List.mem_pair.mp hmem with rfl | rfl <;> rfl
  obtain ⟨front, back, hnames⟩ := exists_names_modifyAt h
  have hself : document.names = front ++ element.names ++ back := by
    have hid := hnames id
    rwa [modifyAt_id] at hid
  rw [namespaces?, namespaces?, renderEach_eq, hself, hnames, names_withDivisions, ← List.append_assoc,
    Namespaces.meetAll?_append, Namespaces.meetAll?_append, Namespaces.meetAll?_append [] _ back]
  congr 1
  cases Namespaces.meetAll? [] (front ++ element.names) with
  | none => rfl
  | some spaces => exact Namespaces.meetAll?_plain spaces hplain

/-! ### Written forms -/

theorem writtenAllIn_append (spaces : Namespaces) (front back : List Element) :
    writtenAllIn spaces (front ++ back) = writtenAllIn spaces front ++ writtenAllIn spaces back := by
  induction front with
  | nil => rfl
  | cons e front ih => rw [List.cons_append, writtenAllIn, writtenAllIn, ih, List.append_assoc]

/-- An element has a text or children, so it is not closed in its own tag. -/
def HasContent (element : Element) : Prop :=
  element.text ≠ [] ∨ element.children ≠ []

theorem isEmpty_iff_not_hasContent :
    (element.text.isEmpty ∧ element.children.isEmpty) ↔ ¬ element.HasContent := by
  rw [HasContent, not_or, not_not, not_not, List.isEmpty_iff, List.isEmpty_iff]

theorem writtenIn_of_not_hasContent (h : ¬ element.HasContent) :
    writtenIn spaces declarations element =
      heading spaces declarations element.tag element.attributes ++ ofString " />" ++
        element.tail.flatMap escapePoint := by
  cases element with
  | mk tag attributes text children tail =>
      rw [writtenIn]
      simp only [if_pos (isEmpty_iff_not_hasContent.mpr h)]

theorem writtenIn_of_hasContent (h : element.HasContent) :
    writtenIn spaces declarations element =
      heading spaces declarations element.tag element.attributes ++
        (ofString ">" ++ element.text.flatMap escapePoint ++ writtenAllIn spaces element.children ++
          ofString "</" ++ writtenName spaces element.tag ++ ofString ">") ++
        element.tail.flatMap escapePoint := by
  cases element with
  | mk tag attributes text children tail =>
      have hlong := fun hempty => isEmpty_iff_not_hasContent.mp hempty h
      rw [writtenIn]
      simp only [if_neg hlong]

/-- What a document holds before and behind the element at a target does not depend on that element. -/
theorem exists_writtenIn_modifyAt (h : document.at? target = some element) (spaces : Namespaces)
    (declarations : Text) :
    ∃ front inner back, ∀ f, writtenIn spaces declarations (document.modifyAt f target) =
      front ++ writtenIn spaces inner (f element) ++ back := by
  induction target generalizing document declarations with
  | nil =>
      obtain rfl : document = element := Option.some.inj h
      exact ⟨[], declarations, [], fun f => (List.append_nil _).symm⟩
  | cons index rest ih =>
      obtain ⟨child, hchild, hrest⟩ := Option.bind_eq_some_iff.mp h
      obtain ⟨before, behind, hmodify⟩ := exists_children_modify hchild
      obtain ⟨front, inner, back, hwritten⟩ := ih hrest []
      refine ⟨heading spaces declarations document.tag document.attributes ++ ofString ">" ++
          document.text.flatMap escapePoint ++ writtenAllIn spaces before ++ front, inner,
        back ++ writtenAllIn spaces behind ++ ofString "</" ++ writtenName spaces document.tag ++
          ofString ">" ++ document.tail.flatMap escapePoint, fun f => ?_⟩
      have hcontent : HasContent (document.modifyAt f (index :: rest)) := by
        rw [modifyAt, hmodify]
        exact Or.inr (List.append_ne_nil_of_right_ne_nil _ (List.cons_ne_nil _ _))
      rw [writtenIn_of_hasContent hcontent, modifyAt, hmodify, writtenAllIn_append, writtenAllIn, hwritten]
      simp only [List.append_assoc]

/-! ### Escaped texts and divisions -/

theorem selfDelimiting_escapePoint : SelfDelimiting escapePoint where
  ne_nil c := by
    rw [escapePoint]
    split_ifs <;> exact List.cons_ne_nil _ _
  eq_of_append_eq {c d r s} h := by
    rw [escapePoint, escapePoint] at h
    split_ifs at h <;> simp_all +decide [ofString]

/-- No escaped text holds an opening bracket. -/
theorem opening_notMem_escaped (t : Text) : CodePoint.ofChar '<' ∉ t.flatMap escapePoint := by
  intro h
  obtain ⟨c, -, hmem⟩ := List.mem_flatMap.mp h
  rw [escapePoint] at hmem
  split_ifs at hmem with hand hopening hclosing
  · exact absurd hmem (by decide)
  · exact absurd hmem (by decide)
  · exact absurd hmem (by decide)
  · exact hopening (List.mem_singleton.mp hmem).symm

/-- How a division is written that holds a text. -/
theorem writtenIn_division (spaces : Namespaces) (t : Text) :
    writtenIn spaces [] (division t) = ofString "<div class=\x22bfjs\x22" ++
      if t = [] then ofString " />" else ofString ">" ++ (t.flatMap escapePoint ++ ofString "</div>") := by
  have hheading : heading spaces [] (division t).tag (division t).attributes =
      ofString "<div class=\x22bfjs\x22" := rfl
  by_cases ht : t = []
  · have hempty : ¬ (division t).HasContent := not_or.mpr ⟨not_not.mpr ht, not_not.mpr rfl⟩
    rw [if_pos ht, writtenIn_of_not_hasContent hempty, hheading]
    exact List.append_nil _
  · have hcontent : (division t).HasContent := Or.inl ht
    rw [if_neg ht, writtenIn_of_hasContent hcontent, hheading]
    show _ ++ (ofString ">" ++ t.flatMap escapePoint ++ [] ++ ofString "</" ++ ofString "div" ++
      ofString ">") ++ [] = _
    simp only [List.append_nil, List.append_assoc]
    rfl

theorem selfDelimiting_division (spaces : Namespaces) :
    SelfDelimiting fun t => writtenIn spaces [] (division t) where
  ne_nil t := by
    rw [writtenIn_division]
    exact List.cons_ne_nil _ _
  eq_of_append_eq {t u r s} h := by
    rw [writtenIn_division, writtenIn_division, List.append_assoc, List.append_assoc] at h
    replace h := List.append_cancel_left h
    by_cases ht : t = []
    · by_cases hu : u = []
      · rw [if_pos ht, if_pos hu] at h
        exact ⟨ht.trans hu.symm, List.append_cancel_left h⟩
      · rw [if_pos ht, if_neg hu] at h
        exact absurd (List.cons.inj h).1 (by decide)
    · by_cases hu : u = []
      · rw [if_neg ht, if_pos hu] at h
        exact absurd (List.cons.inj h).1 (by decide)
      · rw [if_neg ht, if_neg hu, List.append_assoc, List.append_assoc, List.append_assoc,
          List.append_assoc] at h
        obtain ⟨htexts, hend⟩ := Text.eq_of_append_cons_eq (opening_notMem_escaped t)
          (opening_notMem_escaped u) (List.append_cancel_left h)
        have hrest : ofString "/div>" ++ r = ofString "/div>" ++ s := hend
        exact ⟨selfDelimiting_escapePoint.eq_of_flatMap_eq htexts, List.append_cancel_left hrest⟩

theorem writtenAllIn_map_division (spaces : Namespaces) (texts : List Text) :
    writtenAllIn spaces (texts.map division) = texts.flatMap fun t => writtenIn spaces [] (division t) := by
  induction texts with
  | nil => rfl
  | cons t texts ih => rw [List.map_cons, writtenAllIn, ih, List.flatMap_cons]

/-- An element that is closed in its own tag is written unlike one that has got divisions. -/
theorem writtenIn_ne_of_hasContent (hempty : ¬ (element.withDivisions texts).HasContent)
    (hcontent : (element.withDivisions texts').HasContent) :
    writtenIn spaces declarations (element.withDivisions texts) ≠
      writtenIn spaces declarations (element.withDivisions texts') := by
  intro h
  rw [writtenIn_of_not_hasContent hempty, writtenIn_of_hasContent hcontent] at h
  simp only [List.append_assoc] at h
  exact absurd (List.cons.inj (List.append_cancel_left h)).1 (by decide)

/-- The written form of an element tells the divisions behind its children apart. -/
theorem eq_of_writtenIn_withDivisions (h : writtenIn spaces declarations (element.withDivisions texts) =
    writtenIn spaces declarations (element.withDivisions texts')) : texts = texts' := by
  have hnil {texts : List Text} (hempty : ¬ (element.withDivisions texts).HasContent) : texts = [] := by
    have hchildren : element.children ++ texts.map division = [] := not_not.mp (not_or.mp hempty).2
    exact List.map_eq_nil_iff.mp (List.append_eq_nil_iff.mp hchildren).2
  by_cases hcontent : (element.withDivisions texts).HasContent
  · by_cases hcontent' : (element.withDivisions texts').HasContent
    · rw [writtenIn_of_hasContent hcontent, writtenIn_of_hasContent hcontent'] at h
      simp only [withDivisions, writtenAllIn_append, writtenAllIn_map_division, List.append_assoc,
        List.append_cancel_left_eq] at h
      exact (selfDelimiting_division spaces).eq_of_flatMap_eq (List.append_cancel_right h)
    · exact absurd h.symm (writtenIn_ne_of_hasContent hcontent' hcontent)
  · by_cases hcontent' : (element.withDivisions texts').HasContent
    · exact absurd h (writtenIn_ne_of_hasContent hcontent hcontent')
    · rw [hnil hcontent, hnil hcontent']

/-- Rendering texts into an element one after the other puts a division for each of them behind its
children, in their order, and changes nothing else in the document. The document is written exactly if it
could be before, and its written form tells which texts have been rendered. -/
theorem rendering_recoverable (h : document.at? target = some element) :
    (∀ texts, document.renderEach target texts = document.modifyAt (withDivisions · texts) target ∧
      (document.renderEach target texts).at? target =
        some { element with children := element.children ++ texts.map division }) ∧
    (∀ texts, (∃ xml, (document.renderEach target texts).written = .ok xml) ↔
      ∃ xml, document.written = .ok xml) ∧
    ∀ texts texts' xml, (document.renderEach target texts).written = .ok xml →
      (document.renderEach target texts').written = .ok xml → texts = texts' := by
  refine ⟨fun texts => ?_, fun texts => ?_, fun texts texts' xml hwritten hwritten' => ?_⟩
  · rw [renderEach_eq]
    exact ⟨rfl, at?_modifyAt _ h⟩
  · rw [written_eq, written_eq, namespaces?_renderEach h]
    cases document.namespaces? with
    | none => exact Iff.rfl
    | some spaces => exact ⟨fun _ => ⟨_, rfl⟩, fun _ => ⟨_, rfl⟩⟩
  · rw [written_eq, namespaces?_renderEach h, renderEach_eq] at hwritten hwritten'
    cases hspaces : document.namespaces? with
    | none =>
        rw [hspaces] at hwritten
        cases hwritten
    | some spaces =>
        rw [hspaces, Except.ok.injEq] at hwritten hwritten'
        obtain ⟨front, inner, back, hform⟩ := exists_writtenIn_modifyAt h spaces spaces.declarations
        have heq := hwritten.trans hwritten'.symm
        rw [hform, hform] at heq
        exact eq_of_writtenIn_withDivisions (List.append_cancel_left (List.append_cancel_right heq))

/-- One text that poses as the end of a division and the beginning of another is told apart from two empty
texts. -/
theorem rendering_recoverable_posing :
    (leaf (ofString "body") []).at? [] = some (leaf (ofString "body") []) ∧
      ∃ xml xml', ((leaf (ofString "body") []).renderEach [] [[], []]).written = .ok xml ∧
        ((leaf (ofString "body") []).renderEach [] [ofString "</div><div class=\x22bfjs\x22>"]).written =
          .ok xml' ∧ xml ≠ xml' := by
  have hat : (leaf (ofString "body") []).at? [] = some (leaf (ofString "body") []) := rfl
  obtain ⟨-, hwritten, htold⟩ := rendering_recoverable hat
  obtain ⟨xml, hxml⟩ := (hwritten [[], []]).mpr ⟨_, rfl⟩
  obtain ⟨xml', hxml'⟩ := (hwritten [ofString "</div><div class=\x22bfjs\x22>"]).mpr ⟨_, rfl⟩
  refine ⟨hat, xml, xml', hxml, hxml', ?_⟩
  rintro rfl
  exact absurd (congrArg List.length (htold _ _ xml hxml hxml')) (by decide)

end Element

end TapeMachine
