import HostSnapshot.Text.Basic
import HostSnapshot.Text.Integer
import HostSnapshot.Text.Quoted

namespace HostSnapshot.CommandLine

structure Flag where
  names : List String
  takesValue : Bool
deriving DecidableEq, Repr

def Flag.title (f : Flag) : String := "/".intercalate f.names

inductive Operand
  | none
  | text (name : String)
  | command (name : String) (commands : List String)
deriving DecidableEq, Repr

structure Grammar where
  program : String
  usage : String
  help : String
  flags : List Flag
  operand : Operand

/-- Why reading a command line ends the program. -/
inductive Exit
  | help (text : String)
  | failure (usage program message : String)
deriving DecidableEq, Repr

/-- What an argument looks like. An option may be unknown, and may bring its value along. -/
inductive Shape
  | operand
  | separator
  | unknown
  | option (flag : Flag) (spelling : String) (value : Option String)
deriving DecidableEq, Repr

def Shape.spelling : Shape → String
  | .option _ spelling _ => spelling
  | _ => ""

namespace Grammar

def fail (g : Grammar) (message : String) : Except Exit α :=
  .error (.failure g.usage g.program message)

def names (g : Grammar) : List (String × Flag) := g.flags.flatMap fun f => f.names.map (·, f)

def splitValue? (s : List Char) : Option (List Char × List Char) :=
  if s.contains '=' then some (s.takeWhile (· ≠ '='), (s.dropWhile (· ≠ '=')).drop 1) else none

def longMatches (g : Grammar) (s : List Char) : List Shape :=
  let (stem, value) := match splitValue? s with
    | some (stem, value) => (stem, some (String.ofList value))
    | none => (s, none)
  g.names.filterMap fun (name, f) =>
    if stem.isPrefixOf name.toList then some (.option f name value) else none

/-- The options that an argument with a single dash can mean: a letter brings its value along. -/
def shortMatches (g : Grammar) (s : List Char) : List Shape :=
  g.names.filterMap fun (name, f) =>
    if name.toList = s.take 2 then some (.option f name (some (String.ofList (s.drop 2))))
    else if s.isPrefixOf name.toList then some (.option f name none)
    else none

def isNegative (s : List Char) : Bool :=
  let isDecimal (c : Char) : Bool := (Text.decimalValue? c).isSome
  -- The last line feed is not part of the number, as at the end of a pattern.
  let body := (if s.getLast? = some '\n' then s.dropLast else s).drop 1
  let whole := body.takeWhile isDecimal
  match body.dropWhile isDecimal with
  | [] => !whole.isEmpty
  | c :: part => c == '.' && !part.isEmpty && part.all isDecimal

def shape (g : Grammar) (argument : String) : Except Exit Shape :=
  let s := argument.toList
  match s with
  | '-' :: second :: _ =>
    let exact (name : List Char) (value : Option String) : Option Shape :=
      (g.names.lookup (String.ofList name)).map fun f => .option f (String.ofList name) value
    let valued : Option Shape := (splitValue? s).bind fun (stem, value) =>
      exact stem (some (String.ofList value))
    match (exact s none).or valued with
    | some shape => .ok shape
    | none =>
      match if second = '-' then g.longMatches s else g.shortMatches s with
      | [shape] => .ok shape
      | [] => .ok (if isNegative s || s.contains ' ' then .operand else .unknown)
      | shapes =>
        g.fail (s!"ambiguous option: {argument} could match " ++
          ", ".intercalate (shapes.map Shape.spelling))
  | _ => .ok .operand

/-- What the arguments look like; after a separator all are operands. -/
def shapes (g : Grammar) : List String → Except Exit (List (String × Shape))
  | [] => .ok []
  | a :: rest =>
    if a = "--" then .ok ((a, .separator) :: rest.map (·, .operand))
    else do
      let shape ← g.shape a
      return (a, shape) :: (← g.shapes rest)

end Grammar

/-- What a command line says: the options with their values, the operand, the arguments of a
command, and what has no place. -/
structure Reading where
  options : List (String × String)
  operand : Option String
  arguments : List String
  extras : List String
deriving DecidableEq, Repr

namespace Reading

def nothing : Reading := ⟨[], none, [], []⟩

def withOption (r : Reading) (f : Flag) (value : String) : Reading :=
  { r with options := (f.title, value) :: r.options }

def withExtra (r : Reading) (argument : String) : Reading :=
  { r with extras := argument :: r.extras }

def withOperand (r : Reading) (operand : String) : Reading := { r with operand := some operand }

def value? (r : Reading) (title : String) : Option String :=
  (r.options.filter (·.1 = title)).getLast?.map (·.2)

def has (r : Reading) (title : String) : Bool := (r.value? title).isSome

end Reading

namespace Grammar

def helpTitle : String := "-h/--help"

/-- The options that letters behind a single dash stand for, from the first one on, or the text
that has no place. -/
def cluster (g : Grammar) (f : Flag) : List Char → Except (Flag × String) (List Flag)
  | [] => .ok [f]
  | c :: s =>
    if f.takesValue then .error (f, String.ofList (c :: s))
    else match g.names.lookup (String.ofList ['-', c]) with
      | some next => (g.cluster next s).map (f :: ·)
      | none => .error (f, String.ofList (c :: s))

def isLong (spelling : String) : Bool := (spelling.toList.drop 1).head? = some '-'

def ignored (g : Grammar) (f : Flag) (value : String) : Except Exit α :=
  g.fail s!"argument {f.title}: ignored explicit argument {quoted value}"

/-- An option without a value that came with one. -/
def bare (g : Grammar) (f : Flag) (spelling value : String) : Except Exit (List Flag) :=
  if isLong spelling || value = "" then g.ignored f value
  else match g.cluster f value.toList with
    | .ok flags => .ok flags
    | .error (f, value) => g.ignored f value

def checkCommand (g : Grammar) (name : String) (commands : List String) (operand : String) :
    Except Exit Unit :=
  if commands.contains operand then .ok ()
  else g.fail (s!"argument {name}: invalid choice: {quoted operand} (choose from " ++
    ", ".intercalate (commands.map quoted) ++ ")")

/-- A separator right after an operand says nothing. -/
def dropSeparator : List (String × Shape) → List (String × Shape)
  | (_, .separator) :: rest => rest
  | rest => rest

theorem length_dropSeparator_le (arguments : List (String × Shape)) :
    (dropSeparator arguments).length ≤ arguments.length := by
  unfold dropSeparator
  split
  · simp
  · exact Nat.le_refl _

/-- Reads arguments from left to right; `isOpen` says that the operand is still to come. -/
def walk (g : Grammar) (isOpen : Bool) : List (String × Shape) → Except Exit Reading
  | [] => .ok .nothing
  | (argument, .unknown) :: rest => return (← g.walk isOpen rest).withExtra argument
  | (_, .option f spelling value) :: rest =>
    if f.takesValue then
      match value, rest with
      | some value, rest => return (← g.walk isOpen rest).withOption f value
      -- The value is the next argument if that looks like no option.
      | none, (value, .operand) :: rest => return (← g.walk isOpen rest).withOption f value
      | none, _ => g.fail s!"argument {f.title}: expected one argument"
    else do
      let flags ← match value with
        | none => pure [f]
        | some value => g.bare f spelling value
      if flags.any (·.title = helpTitle) then throw (.help g.help)
      return flags.foldr (fun f r => r.withOption f "") (← g.walk isOpen rest)
  | (argument, .operand) :: rest =>
    match isOpen, g.operand with
    | true, .text _ =>
      have := length_dropSeparator_le rest
      return (← g.walk false (dropSeparator rest)).withOperand argument
    -- A command takes all arguments behind it; they are read by its own grammar.
    | true, .command name commands => do
      g.checkCommand name commands argument
      return { Reading.nothing with operand := some argument, arguments := rest.map (·.1) }
    | _, _ => return (← g.walk isOpen rest).withExtra argument
  | (argument, .separator) :: rest =>
    match isOpen, g.operand, rest with
    | true, .text _, (operand, _) :: rest => return (← g.walk false rest).withOperand operand
    | true, .command name commands, _ :: _ => do
      g.checkCommand name commands argument
      return .nothing
    | _, _, rest => return (← g.walk isOpen rest).withExtra argument
termination_by arguments => arguments.length
decreasing_by all_goals simp only [wfParam, List.length_cons]; omega

def read (g : Grammar) (arguments : List String) : Except Exit Reading := do
  let r ← g.walk true (← g.shapes arguments)
  match g.operand, r.operand with
  | .text name, none => g.fail s!"the following arguments are required: {name}"
  | _, _ => return r

end Grammar

end HostSnapshot.CommandLine
