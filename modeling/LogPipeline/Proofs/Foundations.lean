import LogPipeline.Proofs.Routes

/-!
# An orchestrator is built as a whole or not at all

Settings are checked by themselves and then against the schema, and only then is anything done.
Taken as a sequence of steps on a plant (`Orchestrator.construct`), construction comes to what
`Orchestrator.build` says, and a refusal leaves the plant as it was (`construct_run`). Key fields
are located one at a time, and a position is taken twice just when a name comes twice, whether or
not the schema repeats names (`KeyFields.locate_cases`). So settings that passed their own check are
refused only for a name that the schema does not have, or for the template (`Orchestrator.builds`).
-/

namespace LogPipeline

/-! ## Key fields -/

/-- A position has one name. -/
theorem Schema.locate_inj {schema : Schema} {name name' : String} {i : Nat}
    (h : schema.locate name = some i) : schema.locate name' = some i ↔ name' = name := by
  refine ⟨fun h' => ?_, fun he => he ▸ h⟩
  obtain ⟨_, hname, -⟩ := List.idxOf?_eq_some_iff.1 h
  obtain ⟨_, hname', -⟩ := List.idxOf?_eq_some_iff.1 h'
  exact hname'.symm.trans hname

namespace KeyFields

variable {schema : Schema} {names : List String} {text : Option String}

/-- Names are located until one comes again, or the schema does not have it. Positions are `taken`
as names are `seen`. -/
theorem locate_cases {taken : List Nat} {seen : List String}
    (hseen : ∀ name i, schema.locate name = some i → (i ∈ taken ↔ name ∈ seen)) :
    (∃ positions, locate schema taken names = .ok positions ∧ firstRepeated seen names = none)
      ∨ (∃ name, locate schema taken names = .error (.duplicateField name)
        ∧ firstRepeated seen names = some name)
      ∨ ∃ name ∈ names, name ∉ schema.names
        ∧ locate schema taken names = .error (.unknownField name) := by
  induction names generalizing taken seen with
  | nil => exact .inl ⟨[], rfl, rfl⟩
  | cons name names ih =>
    rcases hi : schema.locate name with _ | i
    · refine .inr (.inr ⟨name, List.mem_cons_self, List.idxOf?_eq_none_iff.1 hi, ?_⟩)
      simp [locate, hi]
    simp only [locate, hi, firstRepeated, hseen name i hi]
    by_cases hname : name ∈ seen
    · exact .inr (.inl ⟨name, by rw [if_pos hname], by rw [if_pos hname]⟩)
    rw [if_neg hname, if_neg hname]
    -- what was located last is taken now, and its name has been seen
    have hnext : ∀ name' j, schema.locate name' = some j →
        (j ∈ taken ++ [i] ↔ name' ∈ name :: seen) := by
      intro name' j hj
      have hlast : j = i ↔ name' = name := by
        rw [← Schema.locate_inj hi, hj, Option.some.injEq]
      rw [List.mem_append, List.mem_singleton, List.mem_cons, hseen name' j hj, hlast]
      exact or_comm
    rcases ih hnext with ⟨positions, hok, hnone⟩ | ⟨n, herror, hsome⟩ | ⟨n, hn, hnot, herror⟩
    · exact .inl ⟨i :: positions, by rw [hok]; rfl, hnone⟩
    · exact .inr (.inl ⟨n, by rw [herror]; rfl, hsome⟩)
    · exact .inr (.inr ⟨n, List.mem_cons_of_mem _ hn, hnot, by rw [herror]; rfl⟩)

/-- Key fields are refused by the schema as they are by the settings, or for a name that the schema
does not have. -/
theorem ofNames_cases (schema : Schema) (names : List String) (text : Option String) :
    (∃ fields, ofNames schema names = .ok fields ∧ (Routing.byKeySet names text).check = .ok ())
      ∨ (∃ e, ofNames schema names = .error e ∧ (Routing.byKeySet names text).check = .error e)
      ∨ ∃ name ∈ names, name ∉ schema.names
        ∧ ofNames schema names = .error (.unknownField name) := by
  cases names with
  | nil => exact .inr (.inl ⟨_, rfl, rfl⟩)
  | cons name names =>
    simp only [ofNames, Routing.check, List.isEmpty_cons, Bool.false_eq_true, ↓reduceIte]
    have hseen : ∀ n i, schema.locate n = some i →
        (i ∈ ([] : List Nat) ↔ n ∈ ([] : List String)) := by simp
    rcases locate_cases hseen with
      ⟨positions, hok, hnone⟩ | ⟨n, herror, hsome⟩ | ⟨n, hn, hnot, herror⟩
    · exact .inl ⟨⟨name :: names, positions⟩, by rw [hok]; rfl, by rw [hnone]⟩
    · exact .inr (.inl ⟨_, by rw [herror]; rfl, by rw [hsome]⟩)
    · exact .inr (.inr ⟨n, hn, hnot, by rw [herror]; rfl⟩)

/-- Names that the schema has are refused by the settings and by the schema alike. -/
theorem check_iff_ofNames (h : ∀ name ∈ names, name ∈ schema.names) (e : SettingsError) :
    (Routing.byKeySet names text).check = .error e ↔ ofNames schema names = .error e := by
  rcases ofNames_cases schema names text with ⟨fields, hfields, hcheck⟩ | ⟨e', he, hcheck⟩ |
    ⟨name, hname, hnot, -⟩
  · simp [hfields, hcheck]
  · simp [he, hcheck]
  · exact absurd (h name hname) hnot

theorem mem_names_of_ofNames {fields : KeyFields} (h : ofNames schema names = .ok fields) :
    ∀ name ∈ names, name ∈ schema.names := by
  intro name hname
  have hmem := List.mem_map_of_mem (f := schema.locate) hname
  rw [← (positions_ofNames h).2] at hmem
  obtain ⟨i, -, hi⟩ := List.mem_map.1 hmem
  exact List.isSome_idxOf?.1 (Option.isSome_iff_exists.2 ⟨i, hi.symm⟩)

end KeyFields

/-! ## Construction -/

namespace Orchestrator

/-- What is done to a plant in steps, any of which may refuse. What was done before stays done. -/
abbrev Construction := EStateM SettingsError Plant

def constructSingle : Construction Router := do
  let x ← get
  ofExcept x.ground.blueprint.settings.check
  modify (launch singleTag [])
  return .single true

def constructKeyed (schema : Schema) : Construction Router := do
  let x ← get
  ofExcept x.ground.blueprint.settings.check
  match x.ground.blueprint.settings.routing with
  | .singleton => throw .emptyKeySet
  | .byKeySet names text =>
    let fields ← ofExcept (KeyFields.ofNames schema names)
    let template ← ofExcept (TagTemplate.ofSettings fields.names text)
    return .keyed fields template {}

def construct (schema : Schema) : Construction Router := do
  let x ← get
  match x.ground.blueprint.settings.routing with
  | .byKeySet _ _ => constructKeyed schema
  | .singleton => constructSingle

variable {schema : Schema} {x : Plant} {names : List String} {text : Option String}

/-- Checks come one after the other, and then the router is ready. -/
theorem buildKeyed_eq (hr : x.ground.blueprint.settings.routing = .byKeySet names text) :
    buildKeyed schema x = do
      x.ground.blueprint.settings.check
      let fields ← KeyFields.ofNames schema names
      let template ← TagTemplate.ofSettings fields.names text
      return { plant := x, router := .keyed fields template {} } := by
  simp only [buildKeyed, hr]
  cases text <;> rfl

/-- A check changes nothing. -/
theorem run_ofExcept {α : Type} (r : Except SettingsError α) (x : Plant) :
    EStateM.run (ofExcept r : Construction α) x = match r with
      | .ok a => .ok a x
      | .error e => .error e x := by
  cases r <;> rfl

/-- What comes of the steps on a plant is what is built over it, and a refusal leaves the plant as
it was. -/
theorem construct_run (schema : Schema) (x : Plant) :
    (construct schema).run x = match build schema x with
      | .ok o => .ok o.router o.plant
      | .error e => .error e x := by
  rcases hr : x.ground.blueprint.settings.routing with _ | ⟨names, text⟩
  · simp only [construct, constructSingle, build, EStateM.run_bind, EStateM.run_get, hr]
    cases x.ground.blueprint.settings.check <;> rfl
  · simp only [construct, constructKeyed, build, buildKeyed_eq hr, EStateM.run_bind,
      EStateM.run_get, run_ofExcept, hr]
    cases x.ground.blueprint.settings.check with
    | error e => rfl
    | ok =>
      cases KeyFields.ofNames schema names with
      | error e => rfl
      | ok fields =>
        cases h : TagTemplate.ofSettings fields.names text <;>
          simp only [bind, Except.bind, h]
        all_goals rfl

/-- Settings that an orchestrator can be built from: they pass their own check, the schema has all
key fields, and a template that is given can be read against them. -/
def Suits (schema : Schema) (s : PipelineSettings) : Prop :=
  s.check = .ok () ∧ ∀ names text, s.routing = .byKeySet names text →
    (∀ name ∈ names, name ∈ schema.names)
      ∧ ∀ t, text = some t → ∃ template, TagTemplate.parse t names = .ok template

/-- Whatever else is checked, the routing is. -/
theorem routing_check {s : PipelineSettings} (h : s.check = .ok ()) : s.routing.check = .ok () := by
  have hrest : ∀ {c rest : Except SettingsError Unit}, (c >>= fun _ => rest) = .ok () →
      rest = .ok () := by
    rintro (e | _) rest hc
    · simp [bind, Except.bind] at hc
    · exact hc
  exact hrest (hrest (hrest (hrest (hrest (hrest (hrest h))))))

/-- Key fields of checked settings are refused only for a name that the schema does not have. -/
theorem unknown_of_ofNames {s : PipelineSettings} (hcheck : s.check = .ok ())
    (hr : s.routing = .byKeySet names text) {e : SettingsError}
    (h : KeyFields.ofNames schema names = .error e) :
    ∃ name ∈ names, name ∉ schema.names ∧ e = .unknownField name := by
  have hrouting := hr ▸ routing_check hcheck
  rcases KeyFields.ofNames_cases schema names text with ⟨fields, hfields, -⟩ | ⟨e', -, he⟩ |
    ⟨name, hname, hnot, herror⟩
  · simp [hfields] at h
  · simp [hrouting] at he
  · exact ⟨name, hname, hnot, Except.error.inj (h.symm.trans herror)⟩

theorem build_ok_iff :
    (∃ o, build schema x = .ok o) ↔ Suits schema x.ground.blueprint.settings := by
  constructor
  · rintro ⟨o, hb⟩
    refine ⟨(build_cases hb).1, fun names text hr => ?_⟩
    have hkeyed : buildKeyed schema x = .ok o := by
      rw [← hb, build, hr]
    obtain ⟨-, fields, template, hfields, htemplate, -⟩ := buildKeyed_cases hr hkeyed
    refine ⟨KeyFields.mem_names_of_ofNames hfields, ?_⟩
    rintro t rfl
    exact ⟨template, htemplate⟩
  · rintro ⟨hcheck, hsuits⟩
    rcases hr : x.ground.blueprint.settings.routing with _ | ⟨names, text⟩
    · exact ⟨_, by simp only [build, hr, hcheck]; rfl⟩
    · obtain ⟨hnames, htext⟩ := hsuits names text hr
      have hfields : ∃ fields, KeyFields.ofNames schema names = .ok fields := by
        rcases hf : KeyFields.ofNames schema names with e | fields
        · obtain ⟨name, hname, hnot, -⟩ := unknown_of_ofNames hcheck hr hf
          exact absurd (hnames name hname) hnot
        · exact ⟨fields, rfl⟩
      obtain ⟨fields, hfields⟩ := hfields
      obtain ⟨rfl, -⟩ := KeyFields.values_ofNames hfields {}
      have htemplate : ∃ template, TagTemplate.ofSettings fields.names text = .ok template := by
        cases text with
        | none => exact ⟨_, rfl⟩
        | some t => exact htext t rfl
      obtain ⟨template, htemplate⟩ := htemplate
      refine ⟨{ plant := x, router := .keyed fields template {} }, ?_⟩
      simp only [build, buildKeyed_eq hr, hr, hcheck, hfields, htemplate, bind, Except.bind, pure,
        Except.pure]

/-- What comes of building an orchestrator over a plant. -/
structure Builds (schema : Schema) (x : Plant) : Prop where
  accepted : (∃ o, build schema x = .ok o) ↔ Suits schema x.ground.blueprint.settings
  /-- A refusal leaves no pipeline, no count and nothing else behind. -/
  refused : ∀ e, build schema x = .error e → (construct schema).run x = .error e x
  built : ∀ o, build schema x = .ok o → (construct schema).run x = .ok o.router o.plant
  /-- The only pipeline of a single route is launched at once, and counted. -/
  single : ∀ o, build schema x = .ok o → x.ground.blueprint.settings.routing = .singleton →
    o.plant.pipelines = x.pipelines
        ++ [{ id := x.pipelines.length, tag := singleTag, keySet := []
              input := { capacity := x.ground.blueprint.settings.queueCapacity } }]
      ∧ o.plant.ground = { x.ground with books := x.ground.books.count Counters.launched }
  keyed : ∀ o, build schema x = .ok o → x.ground.blueprint.settings.routing ≠ .singleton →
    o.plant = x
  /-- Of checked settings, the schema refuses neither an empty list of key fields nor a repeated
  one. -/
  unknown : ∀ names text e, x.ground.blueprint.settings.check = .ok () →
    x.ground.blueprint.settings.routing = .byKeySet names text →
    KeyFields.ofNames schema names = .error e →
    ∃ name ∈ names, name ∉ schema.names ∧ e = .unknownField name
  /-- Key fields that the schema has are refused by the settings and by the schema alike. -/
  alike : ∀ names text e, (∀ name ∈ names, name ∈ schema.names) →
    ((Routing.byKeySet names text).check = .error e ↔ KeyFields.ofNames schema names = .error e)

/-- An orchestrator is built just when the settings suit the schema. A refusal does nothing, and
success at most launches the single pipeline. -/
theorem builds (schema : Schema) (x : Plant) : Builds schema x := by
  have hrun := construct_run schema x
  refine ⟨build_ok_iff, fun e hb => by rw [hrun, hb], fun o hb => by rw [hrun, hb],
    fun o hb hr => ?_, fun o hb hr => ?_, fun names text e hcheck hr => ?_,
    fun names text e h => KeyFields.check_iff_ofNames h e⟩
  · simp only [build, hr, (build_cases hb).1] at hb
    obtain rfl := Except.ok.inj hb
    exact ⟨rfl, rfl⟩
  · rcases hrouting : x.ground.blueprint.settings.routing with _ | ⟨names, text⟩
    · exact absurd hrouting hr
    · rw [build, hrouting] at hb
      obtain ⟨-, _, _, -, -, rfl⟩ := buildKeyed_cases hrouting hb
      rfl
  · exact unknown_of_ofNames hcheck hr

/-- A schema that repeats a name, with key fields that do not, and with a template that asks for a
field that is no key field. -/
theorem builds_over_repeated_names :
    let schema : Schema := ⟨["level", "app", "level"]⟩
    let plantOf := fun names text => Plant.mk
      { blueprint := { settings := { routing := .byKeySet names text } }
        destination := ⟨{ capacity := 1 }, []⟩ } []
    (∃ o, build schema (plantOf ["app", "level"] none) = .ok o
        ∧ o.plant = plantOf ["app", "level"] none)
      ∧ ∃ e, (construct schema).run (plantOf ["level"] (some "logs.{app}"))
        = .error e (plantOf ["level"] (some "logs.{app}")) := by
  intro schema plantOf
  have hsuits : Suits schema (plantOf ["app", "level"] none).ground.blueprint.settings := by
    refine ⟨rfl, fun names text hr => ?_⟩
    obtain ⟨rfl, rfl⟩ := Routing.byKeySet.inj hr
    exact ⟨by decide, by simp⟩
  obtain ⟨o, hb⟩ := (builds schema _).accepted.2 hsuits
  refine ⟨⟨o, hb, (builds schema _).keyed o hb (by simp [plantOf])⟩, ?_⟩
  rcases hb : build schema (plantOf ["level"] (some "logs.{app}")) with e | o
  · exact ⟨e, (builds schema _).refused e hb⟩
  · obtain ⟨-, hsuits⟩ := (builds schema _).accepted.1 ⟨o, hb⟩
    obtain ⟨template, ht⟩ := (hsuits ["level"] (some "logs.{app}") rfl).2 _ rfl
    have hf : TagTemplate.parse "logs.{app}" ["level"]
        = .error (.tagTemplate "logs.{app}" (.unknown "app")) := by cbv
    rw [hf] at ht
    cases ht

end Orchestrator

end LogPipeline
