import LogPipeline.Failure

/-!
# Tag templates

A template such as `logs.{level}.{app}` names key fields in braces; everything else is literal.
Braces stand for nothing but such groups. Read against the names of the key fields it becomes a list
of segments, from which the tag of a pipeline is rendered.
-/

namespace LogPipeline

/-- A piece of a tag: a literal text, or the value at a position of the key set. -/
inductive Segment where
  | literal (text : String)
  | field (position : Nat)
deriving DecidableEq, Repr, Inhabited

structure TagTemplate where
  segments : List Segment
deriving DecidableEq, Repr, Inhabited

namespace TagTemplate

/-- Puts a literal, given last character first, in front of segments, unless it is empty. -/
def withLiteral (read : List Char) (segments : List Segment) : List Segment :=
  if read.isEmpty then segments else .literal (String.ofList read.reverse) :: segments

/-- Reads a name up to its closing brace. `read` holds the characters so far, last first. -/
def readName (read : List Char) : List Char → Except TemplateFault (String × List Char)
  | [] => .error .unclosed
  | '}' :: rest => .ok (String.ofList read.reverse, rest)
  | '{' :: _ => .error .nested
  | c :: rest => readName (c :: read) rest

theorem length_readName {read cs rest : List Char} {name : String}
    (h : readName read cs = .ok (name, rest)) : rest.length < cs.length := by
  fun_induction readName read cs with
  | case1 => simp at h
  | case2 =>
    simp only [Except.ok.injEq, Prod.mk.injEq] at h
    rw [← h.2]
    simp
  | case3 => simp at h
  | case4 read c rest' _ _ ih =>
    have := ih h
    simp
    omega

/-- Reads the segments of a template. `read` holds the literal so far, last character first. The
first fault from the left is reported. -/
def readSegments (names : List String) (read : List Char) (cs : List Char) :
    Except TemplateFault (List Segment) :=
  match cs with
  | [] => .ok (withLiteral read [])
  | '}' :: _ => .error .unmatched
  | '{' :: rest =>
    match _h : readName [] rest with
    | .error e => .error e
    | .ok (name, rest) =>
      match names.idxOf? name with
      | none => .error (.unknown name)
      | some i => do
        let segments ← readSegments names [] rest
        return withLiteral read (.field i :: segments)
  | c :: rest => readSegments names (c :: read) rest
termination_by cs.length
decreasing_by
  · have := length_readName ‹_›
    simp
    omega
  · simp

/-- Reads a template against the names of the key fields. -/
def parse (template : String) (names : List String) : Except SettingsError TagTemplate :=
  match readSegments names [] template.toList with
  | .ok segments => .ok ⟨segments⟩
  | .error fault => .error (.tagTemplate template fault)

/-- The segments from position `i` on of a template that joins `n` values by points. -/
def dottedFrom : Nat → Nat → List Segment
  | _, 0 => []
  | 0, n + 1 => .field 0 :: dottedFrom 1 n
  | i + 1, n + 1 => .literal "." :: .field (i + 1) :: dottedFrom (i + 2) n

/-- The values of the key fields, joined by points. -/
def dotted (names : List String) : TagTemplate := ⟨dottedFrom 0 names.length⟩

/-- What a segment contributes to a tag. A position without a value contributes nothing. -/
def Segment.render (keySet : List String) : Segment → String
  | .literal text => text
  | .field i => keySet[i]?.getD ""

def render (t : TagTemplate) (keySet : List String) : String :=
  String.join (t.segments.map (Segment.render keySet))

end TagTemplate

end LogPipeline
