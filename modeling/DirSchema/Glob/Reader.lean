import DirSchema.Glob.Basic
set_option autoImplicit false

namespace DirSchema.Glob

/-- Why a text is no pattern. -/
inductive Fault where
  | unclosedSet
  | unopenedGroup
  | unclosedGroup
  | danglingEscape
  | invalidRange (low high : Char)
deriving DecidableEq, Repr

def Fault.message : Fault → String
  | .unclosedSet => "unclosed character class; missing ']'"
  | .unopenedGroup =>
    "unopened alternate group; missing '\x7b' (maybe escape '\x7d' with '[\x7d]'?)"
  | .unclosedGroup =>
    "unclosed alternate group; missing '\x7d' (maybe escape '\x7b' with '[\x7b]'?)"
  | .danglingEscape => "dangling '\\'"
  | .invalidRange low high =>
    "invalid range; '" ++ low.toString ++ "' > '" ++ high.toString ++ "'"

/-- A group whose closing brace is still to come: the tokens before it and its finished branches,
both from the last. -/
structure Group where
  before : List Token
  branches : List (List Token) := []

/-- What has been read of a pattern: the tokens of the current branch from the last, and the groups
around it from the innermost. -/
structure Progress where
  tokens : List Token := []
  groups : List Group := []

namespace Progress

def push (progress : Progress) (token : Token) : Progress :=
  { progress with tokens := token :: progress.tokens }

def inGroup (progress : Progress) : Bool := !progress.groups.isEmpty

def openGroup (progress : Progress) : Progress :=
  { tokens := [], groups := { before := progress.tokens } :: progress.groups }

/-- The progress after a comma, which is literal outside groups. -/
def comma (progress : Progress) : Progress :=
  match progress.groups with
  | [] => progress.push (.literal ',')
  | group :: outer =>
    { tokens := []
      groups := { group with branches := progress.tokens.reverse :: group.branches } :: outer }

/-- Whether a branch can take no bytes at all, because it has only groups that are empty. -/
def isVoid (branch : List Token) : Bool :=
  branch.all fun
    | .choice [] => true
    | _ => false

/-- The progress after the innermost group. Void branches are no alternatives. -/
def closeGroup (progress : Progress) : Except Fault Progress :=
  match progress.groups with
  | [] => .error .unopenedGroup
  | group :: outer =>
    let branches := (progress.tokens.reverse :: group.branches).reverse
    .ok {
      tokens := .choice (branches.filter fun branch => !isVoid branch) :: group.before
      groups := outer }

def twoStars (progress : Progress) : Progress := (progress.push .anyBytes).push .anyBytes

/-- The progress with the separator before two stars taken up in a token. -/
def absorb (progress : Progress) (token : Token) : Progress :=
  match progress.tokens with
  | .ancestors :: _ | .descendants :: _ => progress
  | _ :: before => { progress with tokens := token :: before }
  | [] => progress

/-- Whether two stars after a character can stand for directories. -/
def startsName (progress : Progress) (previous : Option Char) : Bool :=
  previous == some '/' ||
    (progress.inGroup && (previous == some ',' || previous == some '\x7b'))

/-- The progress after two stars, and whether the separator that follows them is taken with them. -/
def doubleStar (progress : Progress) (previous : Option Char) (rest : List Char) :
    Progress × Bool :=
  if progress.tokens.isEmpty then
    match rest with
    | [] => (progress.push .ancestors, false)
    | '/' :: _ => (progress.push .ancestors, true)
    | _ => (progress.twoStars, false)
  else if !progress.startsName previous then (progress.twoStars, false)
  else
    match rest with
    | [] => (progress.absorb .descendants, false)
    | '/' :: _ => (progress.absorb .between, true)
    | c :: _ =>
      if progress.inGroup && (c == ',' || c == '\x7d') then (progress.absorb .descendants, false)
      else (progress.twoStars, false)

end Progress

/-- The members of a set, from the last, while it is read. -/
structure SetProgress where
  ranges : List (Char × Char) := []
  /-- Whether a dash waits for the end of its range. -/
  dash : Bool := false

def SetProgress.add (progress : SetProgress) (c : Char) : Except Fault SetProgress :=
  match progress.dash, progress.ranges with
  | true, (low, _) :: ranges =>
    if c < low then .error (.invalidRange low c) else .ok { ranges := (low, c) :: ranges }
  | _, ranges => .ok { ranges := (c, c) :: ranges }

/-- The members of a set. A dash at the end is one of them. -/
def SetProgress.finish (progress : SetProgress) : List (Char × Char) :=
  (if progress.dash then ('-', '-') :: progress.ranges else progress.ranges).reverse

/-- The rest of a set: its members, and what follows its bracket. -/
def readMembers (progress : SetProgress) :
    List Char → Except Fault (List (Char × Char) × List Char)
  | [] => .error .unclosedSet
  | c :: rest =>
    if c = ']' && !progress.ranges.isEmpty then .ok (progress.finish, rest)
    else if c = '-' && !progress.ranges.isEmpty && !progress.dash then
      readMembers { progress with dash := true } rest
    else
      match progress.add c with
      | .error fault => .error fault
      | .ok progress => readMembers progress rest

def readSet (cs : List Char) : Except Fault (Token × List Char) :=
  let (negated, body) :=
    match cs with
    | '!' :: rest | '^' :: rest => (true, rest)
    | _ => (false, cs)
  (readMembers {} body).map fun (ranges, rest) => (.oneOf negated ranges, rest)

/-- The tokens of a pattern. Every step takes at least one character, so that as many steps as
there are characters are enough. -/
def readTokens (progress : Progress) (previous : Option Char) :
    Nat → List Char → Except Fault (List Token)
  | _, [] =>
    if progress.inGroup then .error .unclosedGroup else .ok progress.tokens.reverse
  | 0, _ :: _ => .ok progress.tokens.reverse
  | fuel + 1, c :: rest =>
    match c with
    | '?' => readTokens (progress.push .anyByte) (some c) fuel rest
    | '*' =>
      match rest with
      | '*' :: after =>
        let (progress, taken) := progress.doubleStar previous after
        if taken then readTokens progress (some '/') fuel (after.drop 1)
        else readTokens progress (some '*') fuel after
      | _ => readTokens (progress.push .anyBytes) (some c) fuel rest
    | '[' =>
      match readSet rest with
      | .error fault => .error fault
      | .ok (token, after) => readTokens (progress.push token) (some ']') fuel after
    | '\x7b' => readTokens progress.openGroup (some c) fuel rest
    | '\x7d' =>
      match progress.closeGroup with
      | .error fault => .error fault
      | .ok progress => readTokens progress (some c) fuel rest
    | ',' => readTokens progress.comma (some c) fuel rest
    | '\\' =>
      match rest with
      | [] => .error .danglingEscape
      | escaped :: after => readTokens (progress.push (.literal escaped)) (some escaped) fuel after
    | _ => readTokens (progress.push (.literal c)) (some c) fuel rest

def read (pattern : String) : Except Fault Glob :=
  (readTokens {} none pattern.length pattern.toList).map fun tokens => { pattern, tokens }

/-- How patterns are compiled: each text by itself, and patterns that stand for any of them as one
set, which may be refused for a reason of its own. -/
structure Compiler where
  read : String → Except Fault Glob
  refusal? : List Glob → Option String

/-- The compiler that reads patterns. It refuses no sets. -/
def compiler : Compiler := { read, refusal? := fun _ => none }

end DirSchema.Glob
