import TunnelSettings.Cli.Syntax

/-!
Reading a command line: its options in any order, and one argument that must be there. What neither the
options nor the argument account for is left over.
-/
namespace TunnelSettings.Cli

/-- What is found on a command line. -/
inductive Found where
  | option (given : Given)
  /-- The argument; where the argument takes all that follows, the words after it too. -/
  | argument (words : List String)

/-- How a command line is read: its options, its argument, and what each thing found does to a state
or ends in. -/
structure Grammar (σ ε : Type) where
  forms : List OptionForm
  /-- The name of the argument. -/
  argument : String
  /-- Whether the argument takes all words behind it, options included. -/
  takesRest : Bool := false
  act : σ → Found → Except ε σ
  fail : String → ε

/-- How far a command line is read. -/
structure Progress (σ : Type) where
  state : σ
  /-- Whether the argument has been found. -/
  isComplete : Bool := false
  leftOver : List String := []

namespace Grammar

variable {σ ε : Type}

/-- The argument at the start of the tokens, and the tokens behind it. -/
def takeArgument (g : Grammar σ ε) (ts : List Token) : Option (List String × List Token) :=
  match ts.dropWhile (·.kind.isSeparator) with
  | t :: rest =>
    if !t.kind.isArgument then none
    else if g.takesRest then some (ts.map (·.word), [])
    else some ([t.word], rest.dropWhile (·.kind.isSeparator))
  | [] => none

/-- Do what an option asks for, and hand on the tokens behind it. -/
def takeOption (g : Grammar σ ε) (p : Progress σ) (o : Written) (rest : List Token) :
    Except ε (Progress σ × List Token) := do
  let opened ← (o.opened g.forms).mapError g.fail
  let (given, rest) ← match opened.wanting, rest with
    | none, rest => .ok (opened.given, rest)
    | some form, t :: rest =>
      if t.kind.isArgument then .ok (opened.given ++ [⟨form, t.word⟩], rest)
      else .error (g.fail (complain form "expected one argument"))
    | some form, [] => .error (g.fail (complain form "expected one argument"))
  let state ← given.foldlM (fun s o => g.act s (.option o)) p.state
  return ({ p with state, leftOver := p.leftOver ++ opened.extra.toList }, rest)

/-- Read the tokens; `fuel` bounds their number. -/
def readTokens (g : Grammar σ ε) : Nat → Progress σ → List Token → Except ε (Progress σ)
  | 0, p, ts => .ok { p with leftOver := p.leftOver ++ ts.map (·.word) }
  | fuel + 1, p, ts =>
    match ts with
    | [] => .ok p
    | ⟨_, .option o⟩ :: rest => do
      let (p, rest) ← g.takeOption p o rest
      readTokens g fuel p rest
    | ⟨word, .unknownOption⟩ :: rest =>
      readTokens g fuel { p with leftOver := p.leftOver ++ [word] } rest
    | ⟨word, _⟩ :: rest => do
      match if p.isComplete then none else g.takeArgument ts with
      | some (words, behind) =>
        let state ← g.act p.state (.argument words)
        readTokens g fuel { p with state, isComplete := true } behind
      | none => readTokens g fuel { p with leftOver := p.leftOver ++ [word] } rest

/-- Read a command line from a first state. The words that are left over come with the last one. -/
def read (g : Grammar σ ε) (start : σ) (words : List String) : Except ε (σ × List String) := do
  let ts ← (tokens g.forms words).mapError g.fail
  let p ← g.readTokens ts.length { state := start } ts
  if p.isComplete then return (p.state, p.leftOver)
  throw (g.fail ("the following arguments are required: " ++ g.argument))

end Grammar
end TunnelSettings.Cli
