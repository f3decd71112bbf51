import CodeAtlas.Glob.Basic

/-!
# Reading globs

`Glob.parse` reads the written form of a glob from left to right, so of two faults the first one is
reported. Groups may be nested. Two stars stand for directories only where they fill a whole part of
the path; elsewhere they are two single stars.
-/

namespace CodeAtlas

/-- What is wrong with a written glob. -/
inductive GlobFault where
  /-- A set without its closing bracket. -/
  | unclosedSet
  /-- A range whose ends are in the wrong order. -/
  | invalidRange (first last : Char)
  /-- A closing brace without an opening one. -/
  | unopenedGroup
  /-- An opening brace without a closing one. -/
  | unclosedGroup
  /-- A backslash at the end. -/
  | danglingEscape
  deriving DecidableEq, Repr, Inhabited

/-- The wording of a fault. -/
def GlobFault.text : GlobFault → String
  | .unclosedSet => "unclosed character class; missing ']'"
  | .invalidRange first last =>
    "invalid range; '" ++ first.toString ++ "' > '" ++ last.toString ++ "'"
  | .unopenedGroup =>
    "unopened alternate group; missing '\x7b' (maybe escape '\x7d' with '[\x7d]'?)"
  | .unclosedGroup =>
    "unclosed alternate group; missing '\x7d' (maybe escape '\x7b' with '[\x7b]'?)"
  | .danglingEscape => "dangling '\\'"

/-- A glob that cannot be read. -/
structure GlobError where
  glob : String
  fault : GlobFault
  deriving DecidableEq, Repr, Inhabited

/-- The wording of the error. -/
def GlobError.message (error : GlobError) : String :=
  "error parsing glob '" ++ error.glob ++ "': " ++ error.fault.text

namespace Glob

/-- A group that is being read: its finished branches and the items of the current one, both in
reverse. -/
structure Frame where
  branches : List (List GlobItem) := []
  items : List GlobItem := []
  deriving Inhabited

/-- The open groups, innermost first; the last frame is the glob itself. -/
abbrev Frames := List Frame

/-- Add an item to the current branch. -/
def push (item : GlobItem) : Frames → Frames
  | [] => []
  | frame :: rest => { frame with items := item :: frame.items } :: rest

/-- Add two single stars. -/
def pushStars (frames : Frames) : Frames :=
  push .many (push .many frames)

/-- Whether a group is open. -/
def inGroup (frames : Frames) : Bool :=
  1 < frames.length

/-- Put the directories item in place of the item before it, which stands for a slash; directories
follow directories only once. -/
def pushDirectories (last : Bool) : Frames → Frames
  | [] => []
  | frame :: rest =>
    match frame.items with
    | .leading :: _ | .trailing :: _ => frame :: rest
    | items =>
      { frame with items := (if last then .trailing else .between) :: items.drop 1 } :: rest

/-- What two stars add after the character `before`, with the input after them. -/
def readStars (before : Option Char) (frames : Frames) (input : Text) : Frames × Text :=
  if frames.head?.all (·.items.isEmpty) then
    match input with
    | [] => (push .leading frames, [])
    | '/' :: rest => (push .leading frames, rest)
    | _ => (pushStars frames, input)
  else if before != some '/' && !(inGroup frames && (before = some ',' || before = some '{')) then
    (pushStars frames, input)
  else match input with
    | [] => (pushDirectories true frames, [])
    | '/' :: rest => (pushDirectories false frames, rest)
    | c :: _ =>
      if inGroup frames && (c = ',' || c = '}') then (pushDirectories true frames, input)
      else (pushStars frames, input)

/-- The ranges of a set up to its closing bracket, in reverse; `first` tells whether none has been
read yet, and `pending` whether a hyphen waits for the end of a range. -/
def readRanges (first pending : Bool) (ranges : List (Char × Char)) :
    Text → Except GlobFault (List (Char × Char) × Text)
  | [] => .error .unclosedSet
  | c :: rest =>
    if c = ']' && !first then
      .ok (if pending then ('-', '-') :: ranges else ranges, rest)
    else if c = '-' && !first && !pending then readRanges false true ranges rest
    else if pending then
      match ranges with
      | [] => readRanges false false [(c, c)] rest
      | (start, _) :: others =>
        if c < start then .error (.invalidRange start c)
        else readRanges false false ((start, c) :: others) rest
    else readRanges false false ((c, c) :: ranges) rest

/-- A set after its opening bracket. -/
def readSet (input : Text) : Except GlobFault (GlobItem × Text) :=
  let (negated, input) := match input with
    | '!' :: rest => (true, rest)
    | '^' :: rest => (true, rest)
    | _ => (false, input)
  (readRanges true false [] input).map fun (ranges, rest) => (.set negated ranges.reverse, rest)

/-- Read the rest of a glob after the character `before`; `fuel` bounds its length. -/
def readFrom : (fuel : Nat) → (before : Option Char) → Frames → Text → Except GlobFault Frames
  | 0, _, frames, _ => .ok frames
  | _ + 1, _, frames, [] => .ok frames
  | fuel + 1, before, frames, c :: rest =>
    match c with
    | '?' => readFrom fuel (some c) (push .one frames) rest
    | '*' =>
      match rest with
      | '*' :: rest =>
        let (frames, left) := readStars before frames rest
        readFrom fuel (if left.length < rest.length then some '/' else some '*') frames left
      | _ => readFrom fuel (some c) (push .many frames) rest
    | '[' =>
      match readSet rest with
      | .error fault => .error fault
      | .ok (item, rest) => readFrom fuel (some ']') (push item frames) rest
    | '{' => readFrom fuel (some c) ({} :: frames) rest
    | '}' =>
      match frames with
      | frame :: outer :: others =>
        let branches := (frame.items.reverse :: frame.branches).reverse
        readFrom fuel (some c) (push (.group branches) (outer :: others)) rest
      | _ => .error .unopenedGroup
    | ',' =>
      match frames with
      | frame :: outer :: others =>
        let frame := { branches := frame.items.reverse :: frame.branches, items := [] }
        readFrom fuel (some c) (frame :: outer :: others) rest
      | _ => readFrom fuel (some c) (push (.literal c) frames) rest
    | '\\' =>
      match rest with
      | [] => .error .danglingEscape
      | d :: rest => readFrom fuel (some d) (push (.literal d) frames) rest
    | _ => readFrom fuel (some c) (push (.literal c) frames) rest

/-- The glob that a text writes. -/
def parse (text : String) : Except GlobError Glob :=
  match readFrom (text.toList.length + 1) none [{}] text.toList with
  | .ok [frame] => .ok frame.items.reverse
  | .ok _ => .error ⟨text, .unclosedGroup⟩
  | .error fault => .error ⟨text, fault⟩

end Glob

end CodeAtlas
