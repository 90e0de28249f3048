import NetNodeGateway.Common.Text

/-!
# The argument loops of the three `main`s

`gateway_main`, `sensor_sim_main` and `replay_main` read their options with one loop,
`for (int i = 1; i < argc; ++i)`, whose body compares `argv[i]` with each option in turn: a
flag sets a field, an option with a value (`arg == "--port" && i + 1 < argc`) reads
`argv[++i]`, and `--help` prints the usage and returns `0`.  The final `else` differs: the
gateway and the simulator print `Unknown option: ` and the usage and return `1`, while the
replay tool has no `else` and passes over the argument.

`argLoop` is the loop, with the body `step c arg next` of each `main`, `next` being
`argv[i + 1]` when `i + 1 < argc`; `ifValue` and `ifFlag` are the two kinds of branch.  An
argument is any `List Char`; what an `argv` entry can hold, a C string, is `CString`.
`std::stoi` and `std::stoul` are modelled on the text, `none` where they throw: nothing catches
the exception, so the program terminates.  `std::stod` stays abstract, as in the scenario
loader.  The usage text is not modelled.
-/

namespace NetNodeGateway

/-! ### Numbers on the command line -/

/-- `isspace` in the "C" locale: space, `\t`, `\n`, `\v`, `\f` and `\r`. -/
def isCSpace (c : Char) : Bool := c = ' ' ∨ ('\t' ≤ c ∧ c ≤ '\r')

/-- The value of decimal digits, most significant first. -/
def digitsValue (ds : List Char) : Nat := ds.foldl (fun n c => 10 * n + (c.toNat - 48)) 0

/-- What `strtol` and `strtoul` read in base 10: after leading white space, whether an optional
sign is `-`, and the longest run of decimal digits after it. -/
def decimalSubject (s : List Char) : Bool × List Char :=
  match s.dropWhile isCSpace with
  | '-' :: t => (true, t.takeWhile Char.isDigit)
  | '+' :: t => (false, t.takeWhile Char.isDigit)
  | t => (false, t.takeWhile Char.isDigit)

/-- `std::stoi`: the value `strtol` reads; `none` where `stoi` throws `invalid_argument` (no
digits) or `out_of_range` (a value outside `int`). -/
def stoi (s : List Char) : Option Int :=
  let r := decimalSubject s
  if r.2.isEmpty then none
  else
    let v : Int := if r.1 then -(digitsValue r.2 : Int) else digitsValue r.2
    if -2147483648 ≤ v ∧ v ≤ 2147483647 then some v else none

/-- `std::stoul`: the value `strtoul` reads, a value after `-` being negated modulo `2^64`;
`none` where it throws (no digits, or a magnitude above `ULONG_MAX`). -/
def stoul (s : List Char) : Option Nat :=
  let r := decimalSubject s
  if r.2.isEmpty then none
  else if digitsValue r.2 < 18446744073709551616 then
    some (if r.1 then (18446744073709551616 - digitsValue r.2) % 18446744073709551616
      else digitsValue r.2)
  else none

/-- `static_cast<uint16_t>` of an `int`: its value modulo `2^16`. -/
def castUInt16 (v : Int) : UInt16 := UInt16.ofNat (v % 65536).toNat

/-- What an `argv` entry can hold: it is a C string, bytes other than `NUL`. -/
def CString (s : List Char) : Prop := ∀ c ∈ s, 0 < c.toNat ∧ c.toNat < 256

instance : DecidablePred CString := fun s =>
  inferInstanceAs (Decidable (∀ c ∈ s, 0 < c.toNat ∧ c.toNat < 256))

/-! ### The loop -/

/-- What the body of an argument loop does with `argv[i]`. -/
inductive ArgAction (α : Type)
  /-- Go on with `argv[i + 1]` and these options. -/
  | next (c : α)
  /-- `argv[++i]` was read as the option's value: go on after it with these options. -/
  | nextValue (c : α)
  /-- `--help`: the usage is printed and `main` returns `0`. -/
  | help
  /-- The final `else`: `Unknown option: ` and the usage are printed and `main` returns `1`. -/
  | unknown
  /-- A conversion threw, and nothing catches it. -/
  | abort
  deriving DecidableEq, Repr

/-- How an argument loop ends: with the options read, or in a `return` or an abort. -/
inductive ArgsOutcome (α : Type)
  | done (c : α)
  | help
  | unknown (arg : List Char)
  | abort
  deriving DecidableEq, Repr

variable {α : Type}

/-- `arg == name && i + 1 < argc`: the branch `f argv[i + 1]` when `arg` is `name` and an
argument follows it, and the later branches `otherwise` when not. -/
def ifValue (arg name : List Char) (next : Option (List Char)) (f : List Char → ArgAction α)
    (otherwise : ArgAction α) : ArgAction α :=
  match next with
  | some v => if arg = name then f v else otherwise
  | none => otherwise

/-- `arg == name`: the branch `a`, and the later branches `otherwise` when not. -/
def ifFlag (arg name : List Char) (a otherwise : ArgAction α) : ArgAction α :=
  if arg = name then a else otherwise

/-- `for (int i = 1; i < argc; ++i)` over `argv[1], …`, whose body on `argv[i]` is
`step c argv[i] next`, with `next = argv[i + 1]` when `i + 1 < argc`. -/
def argLoop (step : α → List Char → Option (List Char) → ArgAction α) :
    α → List (List Char) → ArgsOutcome α
  | c, [] => .done c
  | c, [arg] =>
    match step c arg none with
    | .next c | .nextValue c => .done c
    | .help => .help
    | .unknown => .unknown arg
    | .abort => .abort
  | c, arg :: v :: rest =>
    match step c arg (some v) with
    | .next c => argLoop step c (v :: rest)
    | .nextValue c => argLoop step c rest
    | .help => .help
    | .unknown => .unknown arg
    | .abort => .abort

/-- The code `main` returns in its argument loop: `0` after `--help` and `1` after an unknown
option; `none` when the loop ends and `main` goes on, or the program aborts. -/
def ArgsOutcome.exitCode : ArgsOutcome α → Option Nat
  | .help => some 0
  | .unknown _ => some 1
  | .done _ | .abort => none

/-- What `main` writes to `std::cerr` in its loop before the usage: the line naming an unknown
option. -/
def ArgsOutcome.errorText : ArgsOutcome α → List Char
  | .unknown arg => "Unknown option: ".toList ++ arg ++ ['\n']
  | _ => []

end NetNodeGateway
