import LogPipeline.KeySet.TagTemplate
import Mathlib.Data.List.Chain
import Mathlib.Data.List.Nodup

/-!
# The language of tag templates

A template that can be read is spelled by pieces: characters other than braces, each standing for
itself, and names of key fields in braces (`readSegments_eq_ok`). The pieces say what the segments
are, so everything that is true of segments is shown along the pieces: a tag is the spelling with
values in the place of names (`render_segmentsOf`), the segments spell the template again
(`print_segmentsOf`), and they are as few as can be (`neat_segmentsOf`). Names joined by points are
read as the template that is used when there is none (`segmentsOf_joined`).
-/

namespace LogPipeline.TagTemplate

/-- A piece of a template as it is written: a character that stands for itself, or the name of a key
field in braces. -/
inductive Piece where
  | plain (c : Char)
  | group (name : String)
deriving DecidableEq, Repr

/-- A text without braces. -/
def Braceless (cs : List Char) : Prop := '{' ∉ cs ∧ '}' ∉ cs

instance (cs : List Char) : Decidable (Braceless cs) := inferInstanceAs (Decidable (_ ∧ _))

theorem braceless_nil : Braceless [] := ⟨List.not_mem_nil, List.not_mem_nil⟩

theorem braceless_cons {c : Char} {cs : List Char} :
    Braceless (c :: cs) ↔ (c ≠ '{' ∧ c ≠ '}') ∧ Braceless cs := by
  simp only [Braceless, List.mem_cons, not_or, ne_eq, eq_comm (b := c)]
  tauto

namespace Piece

/-- A piece as it is written. -/
def text : Piece → List Char
  | plain c => [c]
  | group name => '{' :: (name.toList ++ ['}'])

/-- What may stand in a template over key fields of the given names. -/
def Fits (names : List String) : Piece → Prop
  | plain c => c ≠ '{' ∧ c ≠ '}'
  | group name => Braceless name.toList ∧ name ∈ names

instance (names : List String) : (p : Piece) → Decidable (p.Fits names)
  | plain _ => inferInstanceAs (Decidable (_ ∧ _))
  | group _ => inferInstanceAs (Decidable (_ ∧ _))

/-- What a piece becomes in a tag: a name gives way to the value at its first position. -/
def fill (names keySet : List String) : Piece → List Char
  | plain c => [c]
  | group name => (keySet.getD (names.idxOf name) "").toList

end Piece

/-- The template that pieces spell. -/
def spell (ps : List Piece) : List Char := ps.flatMap Piece.text

/-- A template that pieces spell, each of which may stand in it. -/
def Spelled (names : List String) (ps : List Piece) (cs : List Char) : Prop :=
  (∀ p ∈ ps, p.Fits names) ∧ spell ps = cs

instance (names : List String) (ps : List Piece) (cs : List Char) :
    Decidable (Spelled names ps cs) := inferInstanceAs (Decidable (_ ∧ _))

/-- The segments of pieces. `read` holds the literal so far, last character first. -/
def segmentsOf (names : List String) (read : List Char) : List Piece → List Segment
  | [] => withLiteral read []
  | .plain c :: ps => segmentsOf names (c :: read) ps
  | .group name :: ps => withLiteral read (.field (names.idxOf name) :: segmentsOf names [] ps)

variable {names : List String}

/-- A name is read as far as its closing brace, if no brace stands in it. -/
theorem readName_eq_ok {read cs rest : List Char} {name : String} :
    readName read cs = .ok (name, rest) ↔
      ∃ body, Braceless body ∧ cs = body ++ '}' :: rest
        ∧ name = String.ofList (read.reverse ++ body) := by
  fun_induction readName read cs with
  | case1 read => simp
  | case2 read rest' =>
    constructor
    · rintro ⟨⟩
      exact ⟨[], braceless_nil, rfl, by rw [List.append_nil]⟩
    · rintro ⟨body, hbody, hcs, rfl⟩
      cases body with
      | nil =>
        obtain ⟨-, rfl⟩ := List.cons.inj hcs
        rw [List.append_nil]
      | cons d body => exact absurd (List.cons.inj hcs).1.symm (braceless_cons.1 hbody).1.2
  | case3 read cs =>
    constructor
    · rintro ⟨⟩
    · rintro ⟨body, hbody, hcs, -⟩
      cases body with
      | nil => exact absurd (List.cons.inj hcs).1 (by decide)
      | cons d body => exact absurd (List.cons.inj hcs).1.symm (braceless_cons.1 hbody).1.1
  | case4 read c cs hclose hopen ih =>
    rw [ih]
    constructor
    · rintro ⟨body, hbody, rfl, rfl⟩
      exact ⟨c :: body, braceless_cons.2 ⟨⟨hopen, hclose⟩, hbody⟩, rfl, by simp⟩
    · rintro ⟨body, hbody, hcs, rfl⟩
      cases body with
      | nil => exact absurd (List.cons.inj hcs).1 hclose
      | cons d body =>
        obtain ⟨rfl, rfl⟩ := List.cons.inj hcs
        exact ⟨body, (braceless_cons.1 hbody).2, rfl, by simp⟩

theorem idxOf?_eq_some {name : String} {i : Nat} :
    names.idxOf? name = some i ↔ name ∈ names ∧ names.idxOf name = i := by
  rw [List.idxOf_eq_getD_idxOf?, ← List.isSome_idxOf?]
  cases names.idxOf? name <;> simp

/-- Pieces that may stand in a template are read back from what they spell. -/
theorem readSegments_spell {ps : List Piece} (h : ∀ p ∈ ps, p.Fits names) (read : List Char) :
    readSegments names read (spell ps) = .ok (segmentsOf names read ps) := by
  induction ps generalizing read with
  | nil => rw [spell, List.flatMap_nil, readSegments, segmentsOf]
  | cons p ps ih =>
    obtain ⟨hp, hps⟩ := List.forall_mem_cons.1 h
    cases p with
    | plain c =>
      show readSegments names read (c :: spell ps) = _
      rw [readSegments, ih hps, segmentsOf]
      · exact fun hc => hp.2 hc
      · exact fun hc => hp.1 hc
    | group name =>
      have hspell : spell (.group name :: ps) = '{' :: (name.toList ++ '}' :: spell ps) := by
        simp [spell, Piece.text]
      have hname : readName [] (name.toList ++ '}' :: spell ps) = .ok (name, spell ps) :=
        readName_eq_ok.2 ⟨name.toList, hp.1, rfl, by simp⟩
      have hposition : names.idxOf? name = some (names.idxOf name) :=
        idxOf?_eq_some.2 ⟨hp.2, rfl⟩
      rw [hspell, readSegments, segmentsOf]
      split
      · rename_i hread
        cases hname.symm.trans hread
      · rename_i hread
        cases hname.symm.trans hread
        rw [hposition, ih hps]
        rfl

/-- Whatever is read is spelled by pieces. -/
theorem spelled_of_readSegments {read cs : List Char} {segments : List Segment}
    (h : readSegments names read cs = .ok segments) :
    ∃ ps, Spelled names ps cs ∧ segmentsOf names read ps = segments := by
  fun_induction readSegments names read cs generalizing segments with
  | case1 read => exact ⟨[], ⟨List.forall_mem_nil _, rfl⟩, Except.ok.inj h⟩
  | case2 => cases h
  | case3 => cases h
  | case4 => cases h
  | case5 read cs name rest hname i hposition ih =>
    obtain ⟨body, hbody, rfl, rfl⟩ := readName_eq_ok.1 hname
    obtain ⟨hmem, rfl⟩ := idxOf?_eq_some.1 hposition
    cases hrest : readSegments names [] rest with
    | error e =>
      rw [hrest] at h
      cases h
    | ok inner =>
      rw [hrest] at h
      obtain ⟨ps, ⟨hps, rfl⟩, hinner⟩ := ih hrest
      refine ⟨.group (String.ofList ([].reverse ++ body)) :: ps,
        ⟨List.forall_mem_cons.2 ⟨⟨?_, hmem⟩, hps⟩, ?_⟩, ?_⟩
      · simpa using hbody
      · simp [spell, Piece.text]
      · rw [segmentsOf, hinner]
        exact Except.ok.inj h
  | case6 read c rest hclose hopen ih =>
    obtain ⟨ps, ⟨hps, rfl⟩, rfl⟩ := ih h
    exact ⟨.plain c :: ps, ⟨List.forall_mem_cons.2 ⟨⟨hopen, hclose⟩, hps⟩, rfl⟩, rfl⟩

/-- Segments are read from a text exactly if pieces spell it, and they are the ones of the
pieces. -/
theorem readSegments_eq_ok {cs : List Char} {segments : List Segment} :
    readSegments names [] cs = .ok segments ↔
      ∃ ps, Spelled names ps cs ∧ segmentsOf names [] ps = segments := by
  constructor
  · exact spelled_of_readSegments
  · rintro ⟨ps, ⟨hps, rfl⟩, rfl⟩
    exact readSegments_spell hps []

theorem parse_eq_ok {template : String} {t : TagTemplate} :
    parse template names = .ok t ↔
      ∃ ps, Spelled names ps template.toList ∧ t = ⟨segmentsOf names [] ps⟩ := by
  rw [parse]
  cases hread : readSegments names [] template.toList with
  | error fault =>
    refine ⟨nofun, ?_⟩
    rintro ⟨ps, hps, -⟩
    cases hread.symm.trans (readSegments_eq_ok.2 ⟨ps, hps, rfl⟩)
  | ok segments =>
    obtain ⟨ps, hps, rfl⟩ := readSegments_eq_ok.1 hread
    constructor
    · rintro ⟨⟩
      exact ⟨ps, hps, rfl⟩
    · rintro ⟨ps', hps', rfl⟩
      rw [Except.ok.inj (hread.symm.trans (readSegments_eq_ok.2 ⟨ps', hps', rfl⟩))]

theorem flatMap_withLiteral {f : Segment → List Char} (hf : ∀ text, f (.literal text) = text.toList)
    (read : List Char) (segments : List Segment) :
    (withLiteral read segments).flatMap f = read.reverse ++ segments.flatMap f := by
  cases read with
  | nil => rfl
  | cons c read => simp [withLiteral, hf]

/-- Segments and pieces come to the same text if literals stand for themselves in both and each
position for what its name stands for. -/
theorem flatMap_segmentsOf (names : List String) {f : Segment → List Char} {g : Piece → List Char}
    (hf : ∀ text, f (.literal text) = text.toList) (hg : ∀ c, g (.plain c) = [c])
    (ps : List Piece)
    (h : ∀ name, .group name ∈ ps → f (.field (names.idxOf name)) = g (.group name))
    (read : List Char) :
    (segmentsOf names read ps).flatMap f = read.reverse ++ ps.flatMap g := by
  induction ps generalizing read with
  | nil => rw [segmentsOf, flatMap_withLiteral hf, List.flatMap_nil, List.flatMap_nil]
  | cons p ps ih =>
    have ih := ih fun name hname => h name (List.mem_cons_of_mem _ hname)
    cases p with
    | plain c =>
      rw [segmentsOf, ih, List.reverse_cons, List.flatMap_cons, hg, List.append_assoc]
    | group name =>
      rw [segmentsOf, flatMap_withLiteral hf, List.flatMap_cons, List.flatMap_cons, ih,
        h name List.mem_cons_self]
      rfl

/-- A tag is the template with values in the place of names. -/
theorem render_segmentsOf (ps : List Piece) (keySet : List String) :
    (render ⟨segmentsOf names [] ps⟩ keySet).toList = ps.flatMap (Piece.fill names keySet) := by
  have hflat := flatMap_segmentsOf names
    (f := fun s => (Segment.render keySet s).toList) (g := Piece.fill names keySet)
    (fun _ => rfl) (fun _ => rfl) ps (fun _ _ => rfl) []
  rw [render, String.toList_join, List.flatMap_map]
  exact hflat

/-- A segment as it is written in a template over key fields of the given names. -/
def Segment.print (names : List String) : Segment → List Char
  | .literal text => text.toList
  | .field i => '{' :: ((names.getD i "").toList ++ ['}'])

/-- A template as it is written. -/
def print (names : List String) (t : TagTemplate) : String :=
  String.ofList (t.segments.flatMap (Segment.print names))

/-- The segments of a template spell it. -/
theorem print_segmentsOf {ps : List Piece} {cs : List Char} (h : Spelled names ps cs) :
    print names ⟨segmentsOf names [] ps⟩ = String.ofList cs := by
  obtain ⟨hps, rfl⟩ := h
  have hflat := flatMap_segmentsOf names (f := Segment.print names) (g := Piece.text)
    (fun _ => rfl) (fun _ => rfl) ps ?_ []
  · rw [print, hflat]
    rfl
  intro name hname
  have hmem : name ∈ names := (hps _ hname).2
  have hat : names.getD (names.idxOf name) "" = name := by
    simp [List.getD_eq_getElem?_getD, List.getElem?_idxOf hmem]
  rw [Segment.print, Piece.text, hat]

/-- No literal is empty and no two stand side by side. -/
structure Neat (segments : List Segment) : Prop where
  filled : .literal "" ∉ segments
  apart : segments.IsChain fun s s' => ∀ text text', ¬ (s = .literal text ∧ s' = .literal text')

theorem neat_nil : Neat [] := ⟨List.not_mem_nil, .nil⟩

theorem Neat.field {segments : List Segment} (h : Neat segments) (i : Nat) :
    Neat (.field i :: segments) :=
  ⟨fun hmem => (List.mem_cons.1 hmem).elim nofun h.filled,
    List.isChain_cons.2 ⟨fun _ _ _ _ hlit => (nomatch hlit.1), h.apart⟩⟩

/-- Segments stay neat behind a literal if they do not begin with one. -/
theorem Neat.withLiteral {segments : List Segment} (h : Neat segments)
    (hhead : ∀ text, segments.head? ≠ some (.literal text)) (read : List Char) :
    Neat (withLiteral read segments) := by
  cases read with
  | nil => exact h
  | cons c read =>
    refine ⟨fun hmem => ?_, List.isChain_cons.2 ⟨fun s hs text text' hlit => ?_, h.apart⟩⟩
    · rcases List.mem_cons.1 hmem with hempty | hmem
      · have := congrArg String.toList (Segment.literal.inj hempty)
        simp at this
      · exact h.filled hmem
    · exact hhead text' (by rw [← hlit.2]; exact hs)

theorem neat_segmentsOf (read : List Char) (ps : List Piece) : Neat (segmentsOf names read ps) := by
  induction ps generalizing read with
  | nil => exact neat_nil.withLiteral (fun _ => nofun) read
  | cons p ps ih =>
    cases p with
    | plain c => exact ih (c :: read)
    | group name => exact ((ih []).field _).withLiteral (fun _ => nofun) read

/-- The pieces of names in braces, each behind a point. -/
def behindPoints (names : List String) : List Piece :=
  names.flatMap fun name => [.plain '.', .group name]

/-- The pieces of names in braces, joined by points. -/
def joined : List String → List Piece
  | [] => []
  | name :: rest => .group name :: behindPoints rest

/-- The template that joins names in braces by points. -/
def joinedText (names : List String) : String :=
  ".".intercalate (names.map fun name => "\x7b" ++ name ++ "\x7d")

theorem spell_joined (names : List String) : spell (joined names) = (joinedText names).toList := by
  have hparts : (names.map fun name => "\x7b" ++ name ++ "\x7d").map String.toList
      = names.map fun name => (Piece.group name).text := by
    simp [Piece.text]
  rw [joinedText, String.toList_intercalate, hparts]
  cases names with
  | nil => rfl
  | cons name rest =>
    induction rest generalizing name with
    | nil => simp [joined, behindPoints, spell]
    | cons name' rest ih =>
      have ih := ih name' (by simp [Piece.text])
      rw [List.map_cons, List.intercalate_cons_of_ne_nil (by simp), ← ih]
      simp [spell, joined, behindPoints, Piece.text]

/-- Names are numbered as they are listed if none occurs twice. -/
theorem segmentsOf_behindPoints (before after : List String) (h : (before ++ after).Nodup)
    (hbefore : before ≠ []) :
    segmentsOf (before ++ after) [] (behindPoints after)
      = dottedFrom before.length after.length := by
  induction after generalizing before with
  | nil => simp [behindPoints, segmentsOf, dottedFrom, withLiteral]
  | cons name after ih =>
    have hposition : (before ++ name :: after).idxOf name = before.length := by
      have hnew : name ∉ before := fun hmem =>
        (List.nodup_append.1 h).2.2 name hmem name List.mem_cons_self rfl
      rw [List.idxOf_append_of_notMem hnew, List.idxOf_cons_self, Nat.add_zero]
    have hrest := ih (before ++ [name]) (by simpa using h) (by simp)
    rw [List.append_assoc, List.length_append] at hrest
    obtain ⟨i, hi⟩ : ∃ i, before.length = i + 1 :=
      Nat.exists_eq_succ_of_ne_zero fun h0 => hbefore (List.eq_nil_of_length_eq_zero h0)
    show withLiteral ['.'] (.field ((before ++ name :: after).idxOf name)
      :: segmentsOf (before ++ ([name] ++ after)) [] (behindPoints after)) = _
    rw [hposition, hrest, List.length_cons, hi]
    rfl

theorem segmentsOf_joined (h : names.Nodup) :
    segmentsOf names [] (joined names) = (dotted names).segments := by
  cases names with
  | nil => rfl
  | cons name rest =>
    have hrest := segmentsOf_behindPoints [name] rest h (by simp)
    show Segment.field ((name :: rest).idxOf name) :: segmentsOf ([name] ++ rest) [] _ = _
    rw [hrest, List.idxOf_cons_self]
    rfl

theorem fits_joined (h : ∀ name ∈ names, Braceless name.toList) :
    ∀ p ∈ joined names, p.Fits names := by
  have hgroup : ∀ name ∈ names, (Piece.group name).Fits names := fun name hname =>
    ⟨h name hname, hname⟩
  cases names with
  | nil => exact List.forall_mem_nil _
  | cons name rest =>
    refine List.forall_mem_cons.2 ⟨hgroup name List.mem_cons_self, fun p hp => ?_⟩
    obtain ⟨name', hname', hp⟩ := List.mem_flatMap.1 hp
    rcases List.mem_cons.1 hp with rfl | hp
    · exact (by decide : '.' ≠ '{' ∧ '.' ≠ '}')
    · rw [List.mem_singleton.1 hp]
      exact hgroup name' (List.mem_cons_of_mem _ hname')

/-- A template is read exactly if pieces that fit the names of the key fields spell it. What is read
then renders as the spelling with each name replaced by the value at its first position, has no
literal that is empty or beside another, and is written as the template it was read from, so that no
other template is read as the same. Distinct names without braces, each in braces and joined by
points, are read as the template of a sink without one. -/
theorem parse_spelled (template : String) (names : List String) :
    ((∃ t, parse template names = .ok t) ↔ ∃ ps, Spelled names ps template.toList)
      ∧ (∀ t, parse template names = .ok t →
        (∀ ps, Spelled names ps template.toList → ∀ keySet : List String,
            keySet.length = names.length →
              (t.render keySet).toList = ps.flatMap (Piece.fill names keySet))
          ∧ Neat t.segments ∧ print names t = template
          ∧ ∀ template', parse template' names = .ok t → template' = template)
      ∧ (names.Nodup → (∀ name ∈ names, Braceless name.toList) →
        parse (joinedText names) names = .ok (dotted names)) := by
  have hprint : ∀ template t, parse template names = .ok t → print names t = template := by
    intro template t ht
    obtain ⟨ps, hps, rfl⟩ := parse_eq_ok.1 ht
    rw [print_segmentsOf hps, String.ofList_toList]
  refine ⟨⟨?_, ?_⟩, fun t ht => ⟨fun ps hps keySet _ => ?_, ?_, hprint template t ht, ?_⟩, ?_⟩
  · rintro ⟨t, ht⟩
    obtain ⟨ps, hps, -⟩ := parse_eq_ok.1 ht
    exact ⟨ps, hps⟩
  · rintro ⟨ps, hps⟩
    exact ⟨_, parse_eq_ok.2 ⟨ps, hps, rfl⟩⟩
  · have hsame := ht.symm.trans (parse_eq_ok.2 ⟨ps, hps, rfl⟩)
    rw [Except.ok.inj hsame]
    exact render_segmentsOf ps keySet
  · obtain ⟨ps, -, rfl⟩ := parse_eq_ok.1 ht
    exact neat_segmentsOf [] ps
  · intro template' ht'
    rw [← hprint template' t ht', hprint template t ht]
  · intro hnodup hnames
    exact parse_eq_ok.2 ⟨joined names, ⟨fits_joined hnames, spell_joined names⟩,
      congrArg TagTemplate.mk (segmentsOf_joined hnodup).symm⟩

/-- The template of `logs.{level}.{app}` over two key fields. -/
theorem parse_spelled_logs :
    Spelled ["level", "app"]
        ("logs.".toList.map .plain ++ [.group "level", .plain '.', .group "app"])
        "logs.\x7blevel\x7d.\x7bapp\x7d".toList
      ∧ ∃ t, parse "logs.\x7blevel\x7d.\x7bapp\x7d" ["level", "app"] = .ok t
        ∧ (t.render ["error", "sshd"]).toList = "logs.error.sshd".toList
        ∧ parse "\x7blevel\x7d.\x7bapp\x7d" ["level", "app"] = .ok (dotted ["level", "app"]) := by
  have hspelled : Spelled ["level", "app"]
      ("logs.".toList.map .plain ++ [.group "level", .plain '.', .group "app"])
      "logs.\x7blevel\x7d.\x7bapp\x7d".toList := by
    decide
  obtain ⟨hread, hall, hdotted⟩ :=
    parse_spelled "logs.\x7blevel\x7d.\x7bapp\x7d" ["level", "app"]
  obtain ⟨t, ht⟩ := hread.2 ⟨_, hspelled⟩
  refine ⟨hspelled, t, ht, ?_, ?_⟩
  · rw [(hall t ht).1 _ hspelled ["error", "sshd"] rfl]
    decide
  · exact hdotted (by decide) (by decide)

end LogPipeline.TagTemplate
