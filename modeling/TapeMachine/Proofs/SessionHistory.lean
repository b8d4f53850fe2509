import TapeMachine.Session

/-! Histories of a session. Whatever is done with a session one after the other, each answer and each
call of the surroundings follow from the code and the options that are current, and from how the calls
themselves end; runs leave no trace in the session. Which options are current is told by what was offered
for them and refused of it, not by the function that replaces them. The calls are made visible by letting
every sink and every completion note what it is called with, which changes nothing else. -/

namespace TapeMachine

/-- What a session hands a text to. -/
inductive Outlet where
  | console
  | sink
  | completion
  deriving DecidableEq

/-- A call of an outlet with a text, and the error in which it ended, if any. -/
structure Call (ε : Type) where
  outlet : Outlet
  text : Text
  error : Option ε

variable {σ ε : Type}

/-- A render that also puts each of its calls at the end of a list. -/
def Render.noted (outlet : Outlet) (render : Render σ ε) : Render (σ × List (Call ε)) ε :=
  fun t (surroundings, calls) =>
    match render t surroundings with
    | .ok _ after => .ok () (after, calls ++ [⟨outlet, t, none⟩])
    | .error e after => .error e (after, calls ++ [⟨outlet, t, some e⟩])

/-! ### Replaced settings -/

/-- Which offers are no length of a tape, and why. -/
inductive TapeLength.Refuses : Offer → Refusal → Prop where
  | notInteger {offer : Offer} (h : ∀ n, offer ≠ .integer n) : Refuses offer (.notInteger offer)
  | notPositive {n : Int} (h : n < 1) : Refuses (.integer n) (.notPositive n)

/-- What settings are after a change that is not refused: each is the new value if there is one, and
otherwise the old one. -/
structure Settings.Replaces (old : Settings) (change : Settings.Change) (new : Settings) : Prop where
  tapeLength_of_none : change.tapeLength = none → new.tapeLength = old.tapeLength
  offer_eq : ∀ offer, change.tapeLength = some offer → offer = .integer new.tapeLength.cells
  input_eq : new.input = change.input.getD old.input
  quiet_eq : new.quiet = change.quiet.getD old.quiet

theorem TapeLength.eq_of_check_eq_ok {offer : Offer} {tapeLength : TapeLength}
    (h : check offer = .ok tapeLength) : offer = .integer tapeLength.cells := by
  cases offer with
  | integer n =>
      rw [check] at h
      split at h
      · cases h
        exact congrArg Offer.integer (Int.toNat_of_nonneg (by omega)).symm
      · cases h
  | truth | nothing | text | real => cases h

theorem TapeLength.refuses_of_check_eq_error {offer : Offer} {refusal : Refusal}
    (h : check offer = .error refusal) : Refuses offer refusal := by
  cases offer with
  | integer n =>
      rw [check] at h
      split at h
      · cases h
      · cases h
        exact .notPositive (by omega)
  | truth | nothing | text | real =>
      cases h
      exact .notInteger fun n hn => by cases hn

/-- A change is refused for its offered length only, and otherwise replaces the settings. -/
theorem Settings.change_cases (old : Settings) (change : Settings.Change) :
    (∃ new, old.change change = .ok new ∧ old.Replaces change new) ∨
      ∃ offer refusal, old.change change = .error refusal ∧ change.tapeLength = some offer ∧
        TapeLength.Refuses offer refusal := by
  rw [Settings.change]
  cases hoffer : change.tapeLength with
  | none =>
      refine Or.inl ⟨_, rfl, fun _ => rfl, fun offer h => ?_, rfl, rfl⟩
      rw [hoffer] at h
      cases h
  | some offer =>
      cases hcheck : TapeLength.check offer with
      | ok tapeLength =>
          refine Or.inl ⟨_, by simp only [hcheck]; rfl, fun h => ?_, fun given h => ?_, rfl, rfl⟩
          · rw [hoffer] at h
            cases h
          · cases hoffer.symm.trans h
            exact TapeLength.eq_of_check_eq_ok hcheck
      | error refusal =>
          exact Or.inr ⟨offer, refusal, by simp only [hcheck]; rfl, rfl,
            TapeLength.refuses_of_check_eq_error hcheck⟩

namespace Session

/-- Something that is done with a session: one of its actions, or a change of settings together with
another choice of where output goes and of what is done on completion. -/
inductive Deed (σ ε : Type) where
  | act (action : Action)
  | reconfigure (change : Settings.Change) (sink onComplete : Option (Render σ ε))

/-- The answer of a deed, and the session and its surroundings afterwards. Refused settings leave the
old choices too. -/
def Deed.perform (steps : Nat) (console : Render σ ε) (deed : Deed σ ε) (before : Session σ ε × σ) :
    Except (Failure ε) Answer × (Session σ ε × σ) :=
  match deed with
  | .act action =>
    match Session.perform steps console action before with
    | .ok answer after => (.ok answer, after)
    | .error failure after => (.error failure, after)
  | .reconfigure change sink onComplete =>
    match Session.perform steps console (.changeSettings change) before with
    | .ok answer after => (.ok answer, ({ after.1 with sink, onComplete }, after.2))
    | .error failure after => (.error failure, after)

/-- The answers of deeds that follow one another, whether they fail or not. -/
def history (steps : Nat) (console : Render σ ε) :
    List (Deed σ ε) → Session σ ε × σ → List (Except (Failure ε) Answer) × (Session σ ε × σ)
  | [], before => ([], before)
  | deed :: rest, before =>
    let (answer, between) := deed.perform steps console before
    let (answers, after) := history steps console rest between
    (answer :: answers, after)

/-! ### The law -/

/-- Where output goes. -/
def outlet (session : Session σ ε) : Outlet :=
  if session.sink.isSome then .sink else .console

/-- The call that shows a text, none if the session is quiet. -/
def showing (session : Session σ ε) (t : Text) : List (Call ε) :=
  if session.settings.quiet then [] else [⟨session.outlet, t, none⟩]

/-- The call that completes with a text, if anything is done on completion. -/
def completing (session : Session σ ε) (t : Text) : List (Call ε) :=
  if session.onComplete.isSome then [⟨.completion, t, none⟩] else []

/-- What an interpretation does with its output first. -/
def rendering (console : Render σ ε) (session : Session σ ε) : Render σ ε := fun t =>
  if session.settings.quiet then pure () else session.sink.getD console t

/-- What an interpretation does with its output last. -/
def finishing (session : Session σ ε) : Render σ ε := fun t =>
  match session.onComplete with
  | none => pure ()
  | some complete => complete t

/-- What a deed answers, with which calls, and how it leaves the session that is current at it and the
surroundings. Only deeds that ask for it change the session, and none does so if an offered length is
refused. -/
inductive Lawful (steps : Nat) (console : Render σ ε) (session : Session σ ε) (surroundings : σ) :
    Deed σ ε → Except (Failure ε) Answer → List (Call ε) → Session σ ε → σ → Prop where
  | codeSet (code : Text) :
      Lawful steps console session surroundings (.act (.setCode code)) (.ok .done) []
        { session with code } surroundings
  | settingsChanged {change : Settings.Change} {settings : Settings}
      (h : session.settings.Replaces change settings) :
      Lawful steps console session surroundings (.act (.changeSettings change)) (.ok .done) []
        { session with settings } surroundings
  | settingsRefused {change : Settings.Change} {offer : TapeLength.Offer} {refusal : TapeLength.Refusal}
      (hoffer : change.tapeLength = some offer) (h : TapeLength.Refuses offer refusal) :
      Lawful steps console session surroundings (.act (.changeSettings change))
        (.error (.problem (.length refusal))) [] session surroundings
  | reconfigured {change : Settings.Change} {settings : Settings} (sink onComplete : Option (Render σ ε))
      (h : session.settings.Replaces change settings) :
      Lawful steps console session surroundings (.reconfigure change sink onComplete) (.ok .done) []
        { session with settings, sink, onComplete } surroundings
  | reconfigureRefused {change : Settings.Change} {offer : TapeLength.Offer}
      {refusal : TapeLength.Refusal} {sink onComplete : Option (Render σ ε)}
      (hoffer : change.tapeLength = some offer) (h : TapeLength.Refuses offer refusal) :
      Lawful steps console session surroundings (.reconfigure change sink onComplete)
        (.error (.problem (.length refusal))) [] session surroundings
  | executed {s : Machine.State} (h : Script.run steps session.code session.settings = .ok s) :
      Lawful steps console session surroundings (.act .execute) (.ok (.state s)) [] session surroundings
  | executeFailed {problem : Problem} (h : Script.run steps session.code session.settings = .error problem) :
      Lawful steps console session surroundings (.act .execute) (.error (.problem problem)) [] session
        surroundings
  | runFailed {problem : Problem} (h : Script.run steps session.code session.settings = .error problem) :
      Lawful steps console session surroundings (.act .interpret) (.error (.problem problem)) [] session
        surroundings
  /-- After a failed rendering nothing is completed. -/
  | renderFailed {s : Machine.State} {e : ε} {last : σ}
      (h : Script.run steps session.code session.settings = .ok s)
      (hquiet : session.settings.quiet = false)
      (hrender : session.sink.getD console s.stdout surroundings = .error e last) :
      Lawful steps console session surroundings (.act .interpret) (.error (.surroundings e))
        [⟨session.outlet, s.stdout, some e⟩] session last
  | completionFailed {s : Machine.State} {e : ε} {between last : σ} {complete : Render σ ε}
      (h : Script.run steps session.code session.settings = .ok s)
      (hrender : session.rendering console s.stdout surroundings = .ok () between)
      (hcompletion : session.onComplete = some complete)
      (hcomplete : complete s.stdout between = .error e last) :
      Lawful steps console session surroundings (.act .interpret) (.error (.surroundings e))
        (session.showing s.stdout ++ [⟨.completion, s.stdout, some e⟩]) session last
  | interpreted {s : Machine.State} {between last : σ}
      (h : Script.run steps session.code session.settings = .ok s)
      (hrender : session.rendering console s.stdout surroundings = .ok () between)
      (hfinish : session.finishing s.stdout between = .ok () last) :
      Lawful steps console session surroundings (.act .interpret) (.ok (.output s.stdout))
        (session.showing s.stdout ++ session.completing s.stdout) session last

/-- What the deeds of a history answer, with which calls, which session is current at each of them, and
how they leave the last one and its surroundings. -/
inductive Account (steps : Nat) (console : Render σ ε) :
    Session σ ε → σ → List (Deed σ ε) → List (Except (Failure ε) Answer) → List (Call ε) →
      List (Session σ ε) → Session σ ε → σ → Prop where
  | nil (session : Session σ ε) (surroundings : σ) :
      Account steps console session surroundings [] [] [] [] session surroundings
  | cons {session next last : Session σ ε} {surroundings between final : σ} {deed : Deed σ ε}
      {rest : List (Deed σ ε)} {answer : Except (Failure ε) Answer}
      {answers : List (Except (Failure ε) Answer)} {new calls : List (Call ε)}
      {sessions : List (Session σ ε)}
      (hdeed : Lawful steps console session surroundings deed answer new next between)
      (hrest : Account steps console next between rest answers calls sessions last final) :
      Account steps console session surroundings (deed :: rest) (answer :: answers) (new ++ calls)
        (session :: sessions) last final

/-- The text that a deed shows: the output of an interpretation that comes to an end and is not
quiet. -/
def shown? (steps : Nat) (session : Session σ ε) : Deed σ ε → Option Text
  | .act .interpret =>
    match Script.run steps session.code session.settings with
    | .ok s => if session.settings.quiet then none else some s.stdout
    | .error _ => none
  | _ => none

/-- The texts that have been shown, in the order of the calls. -/
def shownTexts (calls : List (Call ε)) : List Text :=
  (calls.filter fun call => call.outlet ≠ .completion).map Call.text

/-! ### Noted sessions -/

def noted (session : Session σ ε) : Session (σ × List (Call ε)) ε where
  code := session.code
  settings := session.settings
  sink := session.sink.map (Render.noted .sink)
  onComplete := session.onComplete.map (Render.noted .completion)

def Deed.noted : Deed σ ε → Deed (σ × List (Call ε)) ε
  | .act action => .act action
  | .reconfigure change sink onComplete =>
    .reconfigure change (sink.map (Render.noted .sink)) (onComplete.map (Render.noted .completion))

/-! ### One interpretation -/

variable {steps : Nat} {console : Render σ ε} {session : Session σ ε} {surroundings : σ}

theorem interpret_apply :
    session.interpret steps console surroundings =
      match Script.run steps session.code session.settings with
      | .error problem => .error (.problem problem) surroundings
      | .ok s =>
        match session.rendering console s.stdout surroundings with
        | .error e between => .error (.surroundings e) between
        | .ok _ between =>
          match session.finishing s.stdout between with
          | .error e after => .error (.surroundings e) after
          | .ok _ after => .ok s.stdout after := by
  rw [interpret, execute]
  cases Script.run steps session.code session.settings with
  | error problem => rfl
  | ok s =>
      simp only [rendering, finishing]
      by_cases hquiet : session.settings.quiet = true
      · simp only [if_pos hquiet]
        cases session.onComplete with
        | none => rfl
        | some complete =>
            simp only [bind, EStateM.bind, EStateM.adaptExcept, pure, EStateM.pure]
            cases complete s.stdout surroundings <;> rfl
      · simp only [if_neg hquiet]
        simp only [bind, EStateM.bind, EStateM.adaptExcept]
        cases session.sink.getD console s.stdout surroundings with
        | error e between => rfl
        | ok _ between =>
            cases session.onComplete with
            | none => rfl
            | some complete =>
                simp only [EStateM.bind, EStateM.adaptExcept]
                cases complete s.stdout between <;> rfl

theorem noted_rendering (t : Text) (calls : List (Call ε)) :
    session.noted.rendering (Render.noted .console console) t (surroundings, calls) =
      match session.rendering console t surroundings with
      | .ok _ after => .ok () (after, calls ++ session.showing t)
      | .error e after => .error e (after, calls ++ [⟨session.outlet, t, some e⟩]) := by
  have hsink : session.noted.sink.getD (Render.noted .console console) =
      Render.noted session.outlet (session.sink.getD console) := by
    simp only [noted, outlet]
    cases session.sink <;> rfl
  have hsettings : session.noted.settings = session.settings := rfl
  rw [rendering, rendering, hsink, hsettings, showing]
  by_cases hquiet : session.settings.quiet = true
  · simp only [if_pos hquiet, pure, EStateM.pure, List.append_nil]
  · simp only [if_neg hquiet]
    rfl

theorem noted_finishing (t : Text) (calls : List (Call ε)) :
    session.noted.finishing t (surroundings, calls) =
      match session.finishing t surroundings with
      | .ok _ after => .ok () (after, calls ++ session.completing t)
      | .error e after => .error e (after, calls ++ [⟨.completion, t, some e⟩]) := by
  rw [finishing, finishing, completing, noted]
  cases session.onComplete with
  | none => simp [pure, EStateM.pure]
  | some complete => rfl

theorem rendering_eq_error_iff {t : Text} {e : ε} {last : σ} :
    session.rendering console t surroundings = .error e last ↔
      session.settings.quiet = false ∧ session.sink.getD console t surroundings = .error e last := by
  rw [rendering]
  cases session.settings.quiet <;> simp [pure, EStateM.pure]

theorem finishing_eq_error_iff {t : Text} {e : ε} {last : σ} :
    session.finishing t surroundings = .error e last ↔
      ∃ complete, session.onComplete = some complete ∧ complete t surroundings = .error e last := by
  rw [finishing]
  cases session.onComplete <;> simp [pure, EStateM.pure]

/-! ### One deed after the other -/

/-- What a deed does to a session and its surroundings, with its calls noted and without. -/
structure Does (steps : Nat) (console : Render σ ε) (session : Session σ ε) (deed : Deed σ ε)
    (surroundings : σ) (answer : Except (Failure ε) Answer) (new : List (Call ε)) (next : Session σ ε)
    (after : σ) : Prop where
  lawful : Lawful steps console session surroundings deed answer new next after
  perform_eq : deed.perform steps console (session, surroundings) = (answer, (next, after))
  noted_perform_eq : ∀ calls,
    deed.noted.perform steps (Render.noted .console console) (session.noted, (surroundings, calls)) =
      (answer, (next.noted, (after, calls ++ new)))

theorem perform_interpret (steps : Nat) (console : Render σ ε) (session : Session σ ε)
    (surroundings : σ) :
    Deed.perform steps console (.act .interpret) (session, surroundings) =
      match Script.run steps session.code session.settings with
      | .error problem => (.error (.problem problem), (session, surroundings))
      | .ok s =>
        match session.rendering console s.stdout surroundings with
        | .error e between => (.error (.surroundings e), (session, between))
        | .ok _ between =>
          match session.finishing s.stdout between with
          | .error e after => (.error (.surroundings e), (session, after))
          | .ok _ after => (.ok (.output s.stdout), (session, after)) := by
  simp only [Deed.perform, Session.perform, interpret_apply]
  cases Script.run steps session.code session.settings with
  | error problem => rfl
  | ok s =>
      dsimp only
      cases session.rendering console s.stdout surroundings with
      | error e between => rfl
      | ok _ between =>
          dsimp only
          cases session.finishing s.stdout between <;> rfl

theorem exists_does_interpret (steps : Nat) (console : Render σ ε) (session : Session σ ε)
    (surroundings : σ) :
    ∃ answer new after,
      Does steps console session (.act .interpret) surroundings answer new session after := by
  have hrun_noted : Script.run steps session.noted.code session.noted.settings =
      Script.run steps session.code session.settings := rfl
  cases hrun : Script.run steps session.code session.settings with
  | error problem =>
      refine ⟨_, [], surroundings, .runFailed hrun, ?_, fun calls => ?_⟩
      · simp only [perform_interpret, hrun]
      · simp only [Deed.noted, perform_interpret, hrun_noted, hrun, List.append_nil]
  | ok s =>
      cases hrender : session.rendering console s.stdout surroundings with
      | error e between =>
          obtain ⟨hquiet, hsink⟩ := rendering_eq_error_iff.mp hrender
          refine ⟨_, _, between, .renderFailed hrun hquiet hsink, ?_, fun calls => ?_⟩
          · simp only [perform_interpret, hrun, hrender]
          · simp only [Deed.noted, perform_interpret, hrun_noted, hrun, noted_rendering, hrender]
      | ok _ between =>
          cases hfinish : session.finishing s.stdout between with
          | error e after =>
              obtain ⟨complete, hcompletion, hcomplete⟩ := finishing_eq_error_iff.mp hfinish
              refine ⟨_, _, after, .completionFailed hrun hrender hcompletion hcomplete, ?_,
                fun calls => ?_⟩
              · simp only [perform_interpret, hrun, hrender, hfinish]
              · simp only [Deed.noted, perform_interpret, hrun_noted, hrun, noted_rendering, hrender,
                  noted_finishing, hfinish, List.append_assoc]
          | ok _ after =>
              refine ⟨_, _, after, .interpreted hrun hrender hfinish, ?_, fun calls => ?_⟩
              · simp only [perform_interpret, hrun, hrender, hfinish]
              · simp only [Deed.noted, perform_interpret, hrun_noted, hrun, noted_rendering, hrender,
                  noted_finishing, hfinish, List.append_assoc]

/-- Every deed does what is lawful. -/
theorem exists_does (steps : Nat) (console : Render σ ε) (session : Session σ ε) (deed : Deed σ ε)
    (surroundings : σ) :
    ∃ answer new next after, Does steps console session deed surroundings answer new next after := by
  have hnoted : session.noted.settings = session.settings := rfl
  cases deed with
  | reconfigure change sink onComplete =>
      rcases session.settings.change_cases change with
        ⟨settings, hchange, hreplaces⟩ | ⟨offer, refusal, hchange, hoffer, hrefuses⟩
      · refine ⟨_, [], _, surroundings, .reconfigured sink onComplete hreplaces, ?_, fun calls => ?_⟩
        · simp only [Deed.perform, Session.perform, hchange]
        · simp only [Deed.perform, Deed.noted, Session.perform, hnoted, hchange, List.append_nil]
          rfl
      · refine ⟨_, [], _, surroundings, .reconfigureRefused hoffer hrefuses, ?_, fun calls => ?_⟩
        · simp only [Deed.perform, Session.perform, hchange]
        · simp only [Deed.perform, Deed.noted, Session.perform, hnoted, hchange, List.append_nil]
  | act action =>
      cases action with
      | interpret =>
          obtain ⟨answer, new, after, hdoes⟩ := exists_does_interpret steps console session surroundings
          exact ⟨answer, new, session, after, hdoes⟩
      | execute =>
          have hexecute : session.execute steps = Script.run steps session.code session.settings := rfl
          have hsame : session.noted.execute steps = session.execute steps := rfl
          cases hrun : Script.run steps session.code session.settings with
          | ok s =>
              refine ⟨_, [], _, surroundings, .executed hrun, ?_, fun calls => ?_⟩
              · simp only [Deed.perform, Session.perform, hexecute, hrun]
              · simp only [Deed.perform, Deed.noted, Session.perform, hsame, hexecute, hrun, List.append_nil]
          | error problem =>
              refine ⟨_, [], _, surroundings, .executeFailed hrun, ?_, fun calls => ?_⟩
              · simp only [Deed.perform, Session.perform, hexecute, hrun]
              · simp only [Deed.perform, Deed.noted, Session.perform, hsame, hexecute, hrun, List.append_nil]
      | setCode code =>
          refine ⟨_, [], _, surroundings, .codeSet code, rfl, fun calls => ?_⟩
          rw [List.append_nil]
          rfl
      | changeSettings change =>
          rcases session.settings.change_cases change with
            ⟨settings, hchange, hreplaces⟩ | ⟨offer, refusal, hchange, hoffer, hrefuses⟩
          · refine ⟨_, [], _, surroundings, .settingsChanged hreplaces, ?_, fun calls => ?_⟩
            · simp only [Deed.perform, Session.perform, hchange]
            · simp only [Deed.perform, Deed.noted, Session.perform, hnoted, hchange, List.append_nil]
              rfl
          · refine ⟨_, [], _, surroundings, .settingsRefused hoffer hrefuses, ?_, fun calls => ?_⟩
            · simp only [Deed.perform, Session.perform, hchange]
            · simp only [Deed.perform, Deed.noted, Session.perform, hnoted, hchange, List.append_nil]

theorem shownTexts_append (calls new : List (Call ε)) :
    shownTexts (calls ++ new) = shownTexts calls ++ shownTexts new := by
  rw [shownTexts, List.filter_append, List.map_append, shownTexts, shownTexts]

theorem shownTexts_completing (t : Text) : shownTexts (session.completing t) = [] := by
  rw [completing]
  cases session.onComplete <;> simp [shownTexts]

theorem outlet_ne_completion : session.outlet ≠ .completion := by
  rw [outlet]
  cases session.sink <;> simp

theorem shownTexts_showing (t : Text) :
    shownTexts (session.showing t) = if session.settings.quiet then [] else [t] := by
  rw [showing]
  cases session.settings.quiet with
  | true => rfl
  | false => simp [shownTexts, outlet_ne_completion]

theorem Lawful.shownTexts_eq {deed : Deed σ ε} {answer : Except (Failure ε) Answer}
    {new : List (Call ε)} {next : Session σ ε} {last : σ}
    (h : Lawful steps console session surroundings deed answer new next last) :
    shownTexts new = (session.shown? steps deed).toList := by
  cases h with
  | reconfigured => rfl
  | reconfigureRefused => rfl
  | codeSet => rfl
  | settingsChanged => rfl
  | settingsRefused => rfl
  | executed => rfl
  | executeFailed => rfl
  | runFailed hrun => simp only [shown?, hrun]; rfl
  | renderFailed hrun hquiet hrender =>
      simp [shown?, hrun, hquiet, shownTexts, outlet_ne_completion]
  | completionFailed hrun hrender hcompletion hcomplete =>
      rw [shownTexts_append, shownTexts_showing]
      simp only [shown?, hrun]
      cases session.settings.quiet <;> simp [shownTexts]
  | interpreted hrun hrender hfinish =>
      rw [shownTexts_append, shownTexts_showing, shownTexts_completing]
      simp only [shown?, hrun]
      cases session.settings.quiet <;> rfl

/-- The texts shown are the outputs of the interpretations that come to an end and are not quiet, in
their order. -/
theorem Account.shownTexts_eq {deeds : List (Deed σ ε)} {answers : List (Except (Failure ε) Answer)}
    {calls : List (Call ε)} {sessions : List (Session σ ε)} {last : Session σ ε} {final : σ}
    (h : Account steps console session surroundings deeds answers calls sessions last final) :
    shownTexts calls = (sessions.zip deeds).filterMap fun stage => stage.1.shown? steps stage.2 := by
  induction h with
  | nil => rfl
  | @cons session _ _ _ _ _ deed _ _ _ _ _ _ hdeed hrest ih =>
      rw [shownTexts_append, hdeed.shownTexts_eq, ih, List.zip_cons_cons, List.filterMap_cons]
      cases session.shown? steps deed <;> rfl

theorem exists_account (deeds : List (Deed σ ε)) (earlier : List (Call ε)) :
    ∃ answers calls sessions last final,
      Account steps console session surroundings deeds answers calls sessions last final ∧
      history steps console deeds (session, surroundings) = (answers, (last, final)) ∧
      history steps (Render.noted .console console) (deeds.map Deed.noted)
          (session.noted, (surroundings, earlier)) =
        (answers, (last.noted, (final, earlier ++ calls))) := by
  induction deeds generalizing session surroundings earlier with
  | nil =>
      refine ⟨[], [], [], session, surroundings, .nil session surroundings, rfl, ?_⟩
      rw [List.append_nil]
      rfl
  | cons deed rest ih =>
      obtain ⟨answer, new, next, between, hdoes⟩ := exists_does steps console session deed surroundings
      obtain ⟨answers, calls, sessions, last, final, hrest, hplain, hnoted⟩ :=
        @ih next between (earlier ++ new)
      refine ⟨answer :: answers, new ++ calls, session :: sessions, last, final,
        .cons hdoes.lawful hrest, ?_, ?_⟩
      · simp only [history, hdoes.perform_eq, hplain]
      · simp only [List.map_cons, history, hdoes.noted_perform_eq, hnoted, List.append_assoc]

/-- Every history answers, calls and ends as the law says, and noting the calls changes nothing. What
it shows, call by call, are the outputs of its interpretations that come to an end and are not
quiet. -/
theorem history_lawful (steps : Nat) (console : Render σ ε) (session : Session σ ε) (surroundings : σ)
    (deeds : List (Deed σ ε)) :
    ∃ answers calls sessions last final,
      Account steps console session surroundings deeds answers calls sessions last final ∧
      history steps console deeds (session, surroundings) = (answers, (last, final)) ∧
      history steps (Render.noted .console console) (deeds.map Deed.noted)
          (session.noted, (surroundings, [])) =
        (answers, (last.noted, (final, calls))) ∧
      shownTexts calls =
        (sessions.zip deeds).filterMap fun stage => stage.1.shown? steps stage.2 := by
  obtain ⟨answers, calls, sessions, last, final, haccount, hplain, hnoted⟩ :=
    @exists_account σ ε steps console session surroundings deeds []
  exact ⟨answers, calls, sessions, last, final, haccount, hplain, hnoted, haccount.shownTexts_eq⟩

end Session

end TapeMachine
