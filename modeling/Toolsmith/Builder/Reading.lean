import Toolsmith.Builder.Token
/-!
# Reading the builder's command line

The tokens are read once, from left to right.  Reading gives steps: wishes with their values, the
argument of the job, and the tokens that nothing takes.  A fault ends the reading; the steps
before it count, so that a plea for help is heard even if the rest is wrong.
-/

namespace Toolsmith.Builder

/-- What a piece of the command line comes to.  A wish may be without a value even if one is due. -/
inductive Step
  | wish (wish : Wish) (value : Option String)
  | argument (text : String)
  | extra (text : String)
  deriving DecidableEq, Repr

/-- Steps, and the fault that ended the reading if there was one. -/
structure Steps where
  done : List Step
  fault : Option Fault := none
  deriving DecidableEq, Repr

def Steps.after (steps : Steps) (first : List Step) : Steps :=
  { steps with done := first ++ steps.done }

/-! ## 1. Options -/

/-- An option token taken apart: steps, and an option that waits for a value from the next
token. -/
structure Parts where
  steps : List Step
  waiting : Option Opt := none
  deriving DecidableEq, Repr

def Parts.bare (opt : Opt) : Parts :=
  if opt.takesValue then ⟨[], some opt⟩ else ⟨[.wish opt.wish none], none⟩

def Parts.after (parts : Parts) (first : Step) : Parts :=
  { parts with steps := first :: parts.steps }

/-- The value that is attached to an option which takes one: two dashes divide even there, and what
is left is no value. -/
def ofAttached (value : String) : Option String := if value = "--" then none else some value

/-- Takes an option with something attached apart.  Behind the letter of an option that takes no
value other letters may follow, and there an equals sign is a letter too; one that is no option
makes the whole token a fault. -/
def unpack (scope : Scope) (opt : Opt) (isLong : Bool) : List Char → Except Fault Parts
  | [] =>
    if opt.takesValue then .ok ⟨[.wish opt.wish (some "")], none⟩
    else .error (.uselessValue opt "")
  | c :: cs =>
    let attached := String.ofList (c :: cs)
    if opt.takesValue then .ok ⟨[.wish opt.wish (ofAttached attached)], none⟩
    else if isLong then .error (.uselessValue opt attached)
    else
      match scope.option? (String.ofList ['-', c]) with
      | none => .error (.uselessValue opt attached)
      | some next =>
        let parts : Except Fault Parts :=
          match cs with
          | [] => .ok (Parts.bare next)
          | cs => unpack scope next false cs
        parts.map fun parts => parts.after (.wish opt.wish none)

def partsOf (scope : Scope) (opt : Opt) (isLong : Bool) : Option String → Except Fault Parts
  | none => .ok (Parts.bare opt)
  | some attached => unpack scope opt isLong attached.toList

/-! ## 2. Behind the job -/

/-- Reads the tokens behind a job, which takes one more argument if `open_` holds. -/
def read (scope : Scope) : Bool → List Token → Steps
  | _, [] => ⟨[], none⟩
  | open_, token :: rest =>
    match token.role with
    | .unknown => (read scope open_ rest).after [.extra token.text]
    | .argument =>
      if open_ then
        match rest with
        | ⟨_, .divider⟩ :: rest => (read scope false rest).after [.argument token.text]
        | rest => (read scope false rest).after [.argument token.text]
      else (read scope open_ rest).after [.extra token.text]
    | .divider =>
      if open_ then
        match rest with
        | [] => ⟨[], none⟩
        | next :: rest => (read scope false rest).after [.argument next.text]
      else (read scope open_ rest).after [.extra token.text]
    | .option opt isLong attached =>
      match partsOf scope opt isLong attached with
      | .error fault => ⟨[], some fault⟩
      | .ok ⟨steps, none⟩ => (read scope open_ rest).after steps
      | .ok ⟨steps, some waiting⟩ =>
        match rest with
        | ⟨value, .argument⟩ :: rest =>
          (read scope open_ rest).after (steps ++ [.wish waiting.wish (some value)])
        | _ => ⟨[], some (.noValue waiting)⟩

/-! ## 3. Before the job -/

/-- What stands before the name of the job, and the job with its own tokens if there is one. -/
structure Front where
  steps : Steps
  job : Option (Job × List String)
  deriving DecidableEq, Repr

def Front.after (front : Front) (first : List Step) : Front :=
  { front with steps := front.steps.after first }

def Front.ofFault (fault : Fault) : Front := ⟨⟨[], some fault⟩, none⟩

/-- The job that a token names, with the tokens behind it; a fault if it names none. -/
def Front.ofName (name : String) (rest : List Token) : Front :=
  match Job.ofName? name with
  | some job => ⟨⟨[], none⟩, some (job, rest.map Token.text)⟩
  | none => .ofFault (.unknownJob name)

/-- Reads tokens up to the name of the job.  None of the options there takes a value. -/
def readFront : List Token → Front
  | [] => ⟨⟨[], none⟩, none⟩
  | token :: rest =>
    match token.role with
    | .unknown => (readFront rest).after [.extra token.text]
    | .argument => Front.ofName token.text rest
    | .divider =>
      if rest.isEmpty then ⟨⟨[.extra token.text], none⟩, none⟩
      else Front.ofName token.text rest
    | .option opt isLong attached =>
      match partsOf .tool opt isLong attached with
      | .error fault => .ofFault fault
      | .ok ⟨steps, none⟩ => (readFront rest).after steps
      | .ok ⟨_, some waiting⟩ => .ofFault (.noValue waiting)

/-! ## 4. The whole -/

inductive Demand
  | help (scope : Scope)
  | version
  | refused (scope : Scope) (fault : Fault)
  /-- A job, or none, with the steps before its name and behind it. -/
  | task (job : Option Job) (front back : List Step)
  deriving DecidableEq, Repr

/-- The first step that asks for a text and nothing more. -/
def firstPlea (scope : Scope) : List Step → Option Demand
  | [] => none
  | .wish .help _ :: _ => some (.help scope)
  | .wish .version _ :: _ => some .version
  | _ :: steps => firstPlea scope steps

/-- What steps in a scope lead to before anything else is looked at. -/
def interruption (scope : Scope) (steps : Steps) : Option Demand :=
  match firstPlea scope steps.done with
  | some demand => some demand
  | none => steps.fault.map (.refused scope)

/-- The tokens that nothing has taken. -/
def extras (steps : List Step) : List String :=
  steps.filterMap fun step =>
    match step with
    | .extra text => some text
    | _ => none

/-- A task, unless tokens are left over. -/
def settle (job : Option Job) (front back : List Step) : Demand :=
  let left := extras front ++ extras back
  if left.isEmpty then .task job front back else .refused .tool (.leftOver left)

def Job.takesArgument : Job → Bool
  | .build => true
  | .doctor => false

def readBack (job : Job) (tokens : List String) : Steps :=
  match Token.classify (.job job) tokens with
  | .error fault => ⟨[], some fault⟩
  | .ok tokens => read (.job job) job.takesArgument tokens

def readLine (words : List String) : Demand :=
  match Token.classify .tool words with
  | .error fault => .refused .tool fault
  | .ok tokens =>
    let front := readFront tokens
    match interruption .tool front.steps with
    | some demand => demand
    | none =>
      match front.job with
      | none => settle none front.steps.done []
      | some (job, tokens) =>
        let back := readBack job tokens
        match interruption (.job job) back with
        | some demand => demand
        | none => settle (some job) front.steps.done back.done

end Toolsmith.Builder
