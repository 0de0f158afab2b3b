import Mathlib
import Stencil.Proofs.Lockstep
import Stencil.Proofs.Naming
import Stencil.Session

/-!
# Names of the same template

Names with the same normal form are names of the same template. Normal names are those that
proper segments make, and what is behind a name is read the same whether the name is normal or
not. A catalogue asks for the normal form of a name before it does anything else with it. So a
step of a session, and a tag that computes a name, does the same with any other name of the
template.
-/

namespace Stencil

namespace TemplateName

/-- The segments of a name behind another are read on from those that are left of the other. -/
theorem segments_append (before after : List Char) :
    segments (before ++ '/' :: after) =
      ((splitOn isSeparator after).foldl push (segments before).reverse).reverse := by
  rw [segments, splitOn_append (by decide), List.foldl_append, segments, List.reverse_reverse]

/-- So it is the same if the other is normal. -/
theorem normal_append (before after : String) :
    normal (before ++ "/" ++ after) = normal (normal before ++ "/" ++ after) := by
  have behind : ∀ name : String,
      (name ++ "/" ++ after).toList = name.toList ++ '/' :: after.toList := by
    intro name
    simp
  have same : segments (normal before).toList = segments before.toList := by
    rw [normal, String.toList_ofList]
    exact segments_joinWith fun _ member => proper_of_mem_segments member
  calc normal (before ++ "/" ++ after)
      = String.ofList (joinWith '/' (segments (before.toList ++ '/' :: after.toList))) := by
        rw [normal, behind]
    _ = String.ofList (joinWith '/'
          (segments ((normal before).toList ++ '/' :: after.toList))) := by
        rw [segments_append, segments_append, same]
    _ = normal (normal before ++ "/" ++ after) := by
        rw [← behind]
        rfl

/-- The normal names are the empty one and those that proper segments make. -/
theorem exists_normal_iff (text : String) :
    (∃ name, normal name = text) ↔ text = "" ∨ ∃ runs : List (List Char), runs ≠ [] ∧
      (∀ run ∈ runs, Proper run) ∧ text = String.ofList (joinWith '/' runs) := by
  constructor
  · rintro ⟨name, rfl⟩
    by_cases nothing : segments name.toList = []
    · exact .inl (by rw [normal, nothing]; rfl)
    · exact .inr ⟨_, nothing, fun _ member => proper_of_mem_segments member, rfl⟩
  · rintro (rfl | ⟨runs, -, proper, rfl⟩)
    · exact ⟨"", rfl⟩
    · exact ⟨_, by rw [normal, String.toList_ofList, segments_joinWith proper]⟩

end TemplateName

namespace Step

/-- The steps are the same, but for the name that a template is asked for or added by, which may
be another name of the same template. -/
inductive Synonym : Step → Step → Prop where
  | addTemplate {name other : String} (source : String)
      (same : TemplateName.normal name = TemplateName.normal other) :
      Synonym (.addTemplate name source) (.addTemplate other source)
  | removeTemplate {name other : String}
      (same : TemplateName.normal name = TemplateName.normal other) :
      Synonym (.removeTemplate name) (.removeTemplate other)
  | take {name other : String} (slot : String) (line : Option Nat)
      (same : TemplateName.normal name = TemplateName.normal other) :
      Synonym (.take slot (.name name line)) (.take slot (.name other line))
  | isShelved {name other : String}
      (same : TemplateName.normal name = TemplateName.normal other) :
      Synonym (.isShelved name) (.isShelved other)
  | render {name other : String} (line : Option Nat)
      (same : TemplateName.normal name = TemplateName.normal other) :
      Synonym (.render (.name name line)) (.render (.name other line))
  | itself (step : Step) : Synonym step step

end Step

namespace Session

/-- A handle is made the same by any name of its template. -/
theorem obtain?_name (session : Session) {name other : String} (line : Option Nat)
    (same : TemplateName.normal name = TemplateName.normal other) :
    session.obtain? (.name name line) = session.obtain? (.name other line) := by
  simp only [obtain?, Catalogue.load_normal _ _ name other line same]

/-- Whatever the session is, the same step with another name of the template does the same. -/
theorem perform_of_synonym (session : Session) {step other : Step} (synonym : step.Synonym other) :
    session.perform step = session.perform other := by
  cases synonym with
  | addTemplate source same => simp only [perform, addTemplate, Catalogue.addTemplate, same]
  | removeTemplate same => simp only [perform, Catalogue.removeTemplate, same]
  | take slot line same => simp only [perform, session.obtain?_name line same]
  | isShelved same => simp only [perform, Catalogue.isShelved, same]
  | render line same => simp only [perform, render, session.obtain?_name line same]
  | itself step => rfl

/-- And it is reported the same. -/
theorem report_of_synonym (session : Session) {step other : Step} (synonym : step.Synonym other) :
    session.report step = session.report other := by
  simp only [report, perform_of_synonym _ synonym]

/-- So are the same steps, one after the other. -/
theorem prepare_of_synonyms (session : Session) {steps others : List Step}
    (synonyms : List.Forall₂ Step.Synonym steps others) :
    session.prepare steps = session.prepare others := by
  induction synonyms generalizing session with
  | nil => rfl
  | cons synonym rest inductionHypothesis =>
    rw [prepare, prepare, session.report_of_synonym synonym, inductionHypothesis]

end Session

/-- In a world two expressions come to names of the same template, and leave the same behind. -/
def Run.SameTemplate (first second : Expr) (world : World) : Prop :=
  ∃ name other after, Run.evaluateText first world = (.ok name, after) ∧
    Run.evaluateText second world = (.ok other, after) ∧
    TemplateName.normal name = TemplateName.normal other

namespace Station

variable {first second : Expr} {world : World}

/-- A tag loads a template by any of its names the same. -/
theorem load_of_normal (station : Station) (span : Span) {name other : String}
    (same : TemplateName.normal name = TemplateName.normal other) :
    station.load span name = station.load span other := by
  unfold load
  simp only [Catalogue.load_normal _ _ name other _ same]

/-- What is done with a name of a template, and with any other of its names alike, comes to the
same after each of two expressions for it. -/
theorem bind_evaluateText {α : Type} (sameTemplate : Run.SameTemplate first second world)
    {next : String → Run α}
    (alike : ∀ name other, TemplateName.normal name = TemplateName.normal other →
      next name = next other) :
    (Run.evaluateText first >>= next) world = (Run.evaluateText second >>= next) world := by
  obtain ⟨name, other, after, isName, isOther, same⟩ := sameTemplate
  rw [Run.bind_of_ok isName, Run.bind_of_ok isOther, alike name other same]

/-- A tag that extends a template does the same with another name of it. -/
theorem inherit_of_sameTemplate (station : Station) (expand : Expansion) (span : Span)
    (sameTemplate : Run.SameTemplate first second world) :
    station.inherit expand first span world = station.inherit expand second span world := by
  refine bind_evaluateText sameTemplate fun name other same => ?_
  rw [station.load_of_normal span same]

/-- So does one that inserts it. -/
theorem insert_of_sameTemplate (station : Station) (expand : Expansion) (bindings : List Binding)
    (span : Span) (sameTemplate : Run.SameTemplate first second world) :
    station.insert expand first bindings span world =
      station.insert expand second bindings span world := by
  refine bind_evaluateText sameTemplate fun name other same => ?_
  rw [station.load_of_normal span same]

/-- So does one that creates a file of it, once it is known which file. -/
theorem create_of_sameTemplate (station : Station) (expand : Expansion) (target : Expr)
    (span : Span) (sameTemplate : Run.SameTemplate first second (Run.evaluateText target world).2) :
    station.create expand target first span world =
      station.create expand target second span world := by
  unfold create
  rw [Run.bind_apply, Run.bind_apply]
  rcases reached : Run.evaluateText target world with ⟨result, between⟩
  rw [reached] at sameTemplate
  cases result with
  | error halt => rfl
  | ok file =>
    refine bind_evaluateText sameTemplate fun name other same => ?_
    simp only [station.load_of_normal span same]

end Station

/-- Names with the same normal form are names of the same template. The normal form of a name is
normal; the normal names are the empty one and those that proper segments make; and a name behind
another is read the same behind its normal form. Whatever a session was used for, a step with
another name of the template is reported the same and leaves the same behind, and so do any
number of steps. A tag that extends, inserts or makes a file of a template does the same in every
world if its expression for the template comes to another name of it. -/
theorem names_share_templates :
    (∀ name, TemplateName.normal (TemplateName.normal name) = TemplateName.normal name) ∧
    (∀ text, (∃ name, TemplateName.normal name = text) ↔
      text = "" ∨ ∃ runs : List (List Char), runs ≠ [] ∧
        (∀ run ∈ runs, TemplateName.Proper run) ∧ text = String.ofList (joinWith '/' runs)) ∧
    (∀ before after, TemplateName.normal (before ++ "/" ++ after) =
      TemplateName.normal (TemplateName.normal before ++ "/" ++ after)) ∧
    (∀ (session : Session) (step other : Step), step.Synonym other →
      session.report step = session.report other) ∧
    (∀ (session : Session) (steps others : List Step), List.Forall₂ Step.Synonym steps others →
      session.prepare steps = session.prepare others) ∧
    ∀ (expand : Expansion) (station : Station) (span : Span) (first second : Expr) (world : World),
      (Run.SameTemplate first second world →
        (Stmt.inherit first span).execute expand station world =
          (Stmt.inherit second span).execute expand station world ∧
        ∀ bindings, (Stmt.insert first bindings span).execute expand station world =
          (Stmt.insert second bindings span).execute expand station world) ∧
      ∀ target, Run.SameTemplate first second (Run.evaluateText target world).2 →
        (Stmt.create target first span).execute expand station world =
          (Stmt.create target second span).execute expand station world := by
  refine ⟨TemplateName.normal_normal, TemplateName.exists_normal_iff, TemplateName.normal_append,
    fun session _ _ synonym => session.report_of_synonym synonym,
    fun session _ _ synonyms => session.prepare_of_synonyms synonyms, ?_⟩
  intro expand station span first second world
  exact ⟨fun sameTemplate => ⟨station.inherit_of_sameTemplate expand span sameTemplate,
    fun bindings => station.insert_of_sameTemplate expand bindings span sameTemplate⟩,
    fun target sameTemplate => station.create_of_sameTemplate expand target span sameTemplate⟩

/-- A template that was added by one name stands on the shelf under another, and tags insert it,
and make a file of it, by either. -/
theorem names_share_templates_dotted :
    let name := "a/./b/../c.html"
    let other := "../a\\c.html"
    let added := (Session.empty.prepare [.addTemplate name "x"]).2
    let world : World := { added.shop with turns := [], sink := .buffer "" }
    let station := Station.start ⟨0, default⟩
    let written (name : String) : Expr := .literal (.text name)
    TemplateName.normal name = "a/c.html" ∧
      Session.empty.prepare [.addTemplate name "x"] =
        Session.empty.prepare [.addTemplate other "x"] ∧
      (added.report (.isShelved name)).1.answer = .truth true ∧
      added.report (.isShelved name) = added.report (.isShelved other) ∧
      Run.SameTemplate (written name) (written other) world ∧
      (Stmt.insert (written name) [] ⟨0, 0⟩).execute (expand 2) station world =
        (Stmt.insert (written other) [] ⟨0, 0⟩).execute (expand 2) station world ∧
      (Stmt.create (written "f") (written name) ⟨0, 0⟩).execute (expand 2) station world =
        (Stmt.create (written "f") (written other) ⟨0, 0⟩).execute (expand 2) station world := by
  intro name other added world station written
  have same : TemplateName.normal name = TemplateName.normal other := by decide
  have sameTemplate : Run.SameTemplate (written name) (written other) world :=
    ⟨name, other, world, rfl, rfl, same⟩
  obtain ⟨-, -, -, reports, prepares, tags⟩ := names_share_templates
  obtain ⟨opening, filing⟩ := tags (expand 2) station ⟨0, 0⟩ (written name)
    (written other) world
  refine ⟨by decide, ?_, ?_, reports added _ _ (.isShelved same), sameTemplate,
    (opening sameTemplate).2 [], filing (written "f") sameTemplate⟩
  · exact prepares .empty _ _ (.cons (.addTemplate "x" same) .nil)
  · have shelved : added.shop.catalogue.isShelved name = true := by decide +kernel
    exact congrArg Answer.truth shelved

end Stencil
