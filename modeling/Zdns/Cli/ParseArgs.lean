import Zdns.Support.Names

/-!
# CLI — Arguments

`parseArgs` and `Execute`, over the libraries they call.  Before parsing, `parseArgs`
upper-cases the first argument of `os.Args` whose upper case names a lookup module, so that
`zdns nslookup` works as `zdns NSLOOKUP` (`capitalizeModule`); it parses once for `--version`,
then for good; `Execute` then reads the config file of the `MULTIPLE` module and runs the lookups.
Go's `strings.ToUpper` and `strings.EqualFold` are parameters: their Unicode tables are the
library's.

* `capitalizeModule_spec`: the loop upper-cases the first argument whose upper case is a module
  name, and nothing else.
* `capitalizeModule_append_of_mem`: `os.Args[0]` and every flag value before the module are
  scanned too, so that one of them naming a module leaves the module itself as written:
  `zdns --class any a` keeps the module `a` in lower case.
* `execute_eq_run`: `Execute` runs the lookups exactly with what the second parse returned, the
  module the upper case of its command, and the `MULTIPLE` module only with a config file named
  and parsed.
-/

namespace Zdns.Cli

/-- `zdnsCLIVersion`. -/
def zdnsCLIVersion : String := "1.1.0"

/-- The fields of `CLIConf` that `parseArgs` and `Execute` read or write. -/
structure CLIConf where
  version : Bool
  multipleModuleConfigFilePath : String
  domains : List String
  module : String
deriving DecidableEq

/-- An error of `ParseCommandLine`: a `*flags.Error`, which the parser prints itself, or another. -/
inductive ParseError
  | flags (msg : String)
  | other (msg : String)
deriving DecidableEq

/-- How `Execute` ends: `os.Exit` with what it printed, `log.Fatal`, a panic, or `Run(GC)`. -/
inductive Outcome
  | exit (code : Nat) (stdout : String)
  | fatal (msg : String)
  | panic
  | run (gc : CLIConf)
deriving DecidableEq

/-- What the CLI calls outside this file: `GetValidLookups`, zflags' `ParseCommandLine` with
`SubcommandsOptional` set or not (it fills the option fields of `GC` and returns the remaining
arguments, the command and its error), the INI parser of the multiple module's config, and Go's
`strings.ToUpper` and `strings.EqualFold`, whose Unicode case tables lie outside the repository
(`ToUpper` maps `ſ` to `S` and `ı` to `I`), so that every theorem holds for any of them. -/
structure Env where
  isValidLookup : String → Bool
  parseCommandLine : Bool → List String → CLIConf → CLIConf × List String × String × Option ParseError
  iniParseFails : String → Bool
  toUpper : String → String
  equalFold : String → String → Bool

section
variable (env : Env)

/-- The first loop of `parseArgs`, over `os.Args`: the first argument whose upper case is a
module name is upper-cased, and the loop stops. -/
def capitalizeModule : List String → List String
  | [] => []
  | arg :: rest =>
      if env.isValidLookup (env.toUpper arg) then env.toUpper arg :: rest
      else arg :: capitalizeModule rest

/-- `parseArgs`: the configuration it leaves in `GC`, or how it ends the program.  Slicing
`os.Args[1:]` of an empty `os.Args` panics. -/
def parseArgs (osArgs : List String) (gc : CLIConf) : Except Outcome CLIConf :=
  match capitalizeModule env osArgs with
  | [] => .error .panic
  | _ :: args =>
      let gc := (env.parseCommandLine true args gc).1
      if gc.version then .error (.exit 0 ("zdns version " ++ zdnsCLIVersion ++ "\n"))
      else
        match env.parseCommandLine false args gc with
        | (_, _, _, some (.flags _)) => .error (.exit 1 "")
        | (_, _, _, some (.other msg)) => .error (.fatal msg)
        | (gc, args, moduleType, none) =>
            .ok { gc with
              domains := if args.length ≠ 0 then args else gc.domains
              module := env.toUpper moduleType }

/-- `handleMultipleModule`: a fatal log, or nothing once the config file parses. -/
def handleMultipleModule (gc : CLIConf) : Option Outcome :=
  if gc.multipleModuleConfigFilePath = "" then
    some (.fatal "must specify a config file for the multiple module, see -c")
  else if env.iniParseFails gc.multipleModuleConfigFilePath then some (.fatal "error in ini parse")
  else none

/-- `Execute`. -/
def execute (osArgs : List String) (gc : CLIConf) : Outcome :=
  match parseArgs env osArgs gc with
  | .error o => o
  | .ok gc =>
      if env.equalFold gc.module "MULTIPLE" then (handleMultipleModule env gc).getD (.run gc)
      else .run gc

end

/-! ### The module's capitalisation -/

section Capitalize
variable {env : Env}

/-- The loop changes the first argument whose upper case names a module, to that upper case,
and nothing else; without such an argument it changes nothing. -/
theorem capitalizeModule_spec (args : List String) :
    ((∀ a ∈ args, env.isValidLookup (env.toUpper a) = false) ∧ capitalizeModule env args = args) ∨
    ∃ pre a post, args = pre ++ a :: post ∧ (∀ b ∈ pre, env.isValidLookup (env.toUpper b) = false) ∧
      env.isValidLookup (env.toUpper a) = true ∧
      capitalizeModule env args = pre ++ env.toUpper a :: post := by
  induction args with
  | nil => exact .inl ⟨fun _ h => absurd h (List.not_mem_nil _), rfl⟩
  | cons arg rest ih =>
      cases h : env.isValidLookup (env.toUpper arg)
      · rcases ih with ⟨hall, heq⟩ | ⟨pre, a, post, rfl, hpre, ha, heq⟩
        · refine .inl ⟨?_, by simp [capitalizeModule, h, heq]⟩
          simpa [h] using hall
        · refine .inr ⟨arg :: pre, a, post, rfl, ?_, ha, by simp [capitalizeModule, h, heq]⟩
          simpa [h] using hpre
      · exact .inr ⟨[], arg, rest, rfl, by simp, h, by simp [capitalizeModule, h]⟩

/-- Once an argument names a module, the loop leaves every later argument as written. -/
theorem capitalizeModule_append_of_mem {pre : List String} {b : String} (hb : b ∈ pre)
    (hv : env.isValidLookup (env.toUpper b) = true) (rest : List String) :
    capitalizeModule env (pre ++ rest) = capitalizeModule env pre ++ rest := by
  induction pre with
  | nil => exact absurd hb (List.not_mem_nil _)
  | cons arg pre ih =>
      rcases List.mem_cons.mp hb with rfl | hb
      · simp [capitalizeModule, hv]
      · by_cases h : env.isValidLookup (env.toUpper arg) = true
        · simp [capitalizeModule, h]
        · simp [capitalizeModule, h, ih hb]

/-- Go's `unicode.ToUpper` on the letters of the tests: the ASCII ones, `ſ` and `ı`. -/
def toUpperSample (c : Char) : Char :=
  if c = 'ſ' then 'S' else if c = 'ı' then 'I' else c.toUpper

/-- The lookup modules of a test build: A, ANY and SOA, with Go's case mapping on the letters
the tests use. -/
def lookupsEnv : Env where
  isValidLookup s := decide (s = "A" ∨ s = "ANY" ∨ s = "SOA")
  parseCommandLine _ _ gc := (gc, [], "", none)
  iniParseFails _ := false
  toUpper s := ⟨s.data.map toUpperSample⟩
  equalFold s t := toLower s == toLower t

/-- `--class any` before the module `a`: the loop upper-cases the class and stops; `ſoa`, whose
upper case is SOA, is the module of `zdns ſoa a`. -/
example : capitalizeModule lookupsEnv ["zdns", "--class", "any", "a", "example.com"] =
      ["zdns", "--class", "ANY", "a", "example.com"] ∧
    capitalizeModule lookupsEnv ["zdns", "a", "example.com"] = ["zdns", "A", "example.com"] ∧
    capitalizeModule lookupsEnv ["zdns", "ſoa", "a"] = ["zdns", "SOA", "a"] := by
  decide

/-- The class value `any` names the module ANY, so the module `a` after it is left as written. -/
theorem capitalizeModule_append_of_mem_class :
    "any" ∈ ["zdns", "--class", "any"] ∧ lookupsEnv.isValidLookup (lookupsEnv.toUpper "any") = true ∧
      capitalizeModule lookupsEnv (["zdns", "--class", "any"] ++ ["a", "example.com"]) =
        capitalizeModule lookupsEnv ["zdns", "--class", "any"] ++ ["a", "example.com"] :=
  have hb : "any" ∈ ["zdns", "--class", "any"] := by decide
  have hv : lookupsEnv.isValidLookup (lookupsEnv.toUpper "any") = true := by decide
  ⟨hb, hv, capitalizeModule_append_of_mem hb hv ["a", "example.com"]⟩

end Capitalize

/-! ### Execute -/

section Execute
variable {env : Env} {osArgs : List String} {gc g : CLIConf}

/-- `parseArgs` hands `GC` on: after the loop, `os.Args[1:]` goes to both parses, the second
starting from what the first left, and `GC` is what the second returned, with its remaining
arguments as domains when there are any and the upper case of its command as module. -/
theorem parseArgs_eq_ok : parseArgs env osArgs gc = .ok g ↔
    ∃ arg0 args gc' rest moduleType, capitalizeModule env osArgs = arg0 :: args ∧
      (env.parseCommandLine true args gc).1.version = false ∧
      env.parseCommandLine false args (env.parseCommandLine true args gc).1 =
        (gc', rest, moduleType, none) ∧
      g = { gc' with domains := if rest.length ≠ 0 then rest else gc'.domains
                     module := env.toUpper moduleType } := by
  unfold parseArgs
  split
  · next hc => simp [hc]
  · next arg0 args hc =>
      constructor
      · intro h
        dsimp only at h
        split at h
        · cases h
        · next hv =>
            split at h
            · cases h
            · cases h
            · next gc' rest moduleType hp =>
                cases h
                exact ⟨arg0, args, gc', rest, moduleType, hc, by simpa using hv, hp, rfl⟩
      · rintro ⟨a0, as, gc', rest, moduleType, h, hv, hp, rfl⟩
        obtain ⟨rfl, rfl⟩ := List.cons.inj (hc.symm.trans h)
        simp [hv, hp]

/-- `parseArgs` never ends the program by running the lookups. -/
theorem parseArgs_ne_error_run : parseArgs env osArgs gc ≠ .error (.run g) := by
  unfold parseArgs
  split
  · simp
  · dsimp only
    split
    · simp
    · split <;> simp

/-- `handleMultipleModule` lets the lookups run exactly when a config file is named and its INI
parse succeeds. -/
theorem handleMultipleModule_eq_none : handleMultipleModule env g = none ↔
    g.multipleModuleConfigFilePath ≠ "" ∧ env.iniParseFails g.multipleModuleConfigFilePath = false := by
  unfold handleMultipleModule
  split_ifs with h₁ h₂ <;> simp_all

/-- With the multiple module, `Execute` runs the lookups exactly when `handleMultipleModule` lets
it, with the configuration it was handed. -/
theorem getD_handleMultipleModule {g' : CLIConf} :
    (handleMultipleModule env g').getD (.run g') = .run g ↔ g' = g ∧ handleMultipleModule env g' = none := by
  unfold handleMultipleModule
  split_ifs <;> simp [eq_comm]

/-- The lookup modules of the test build, with a parser that takes the first argument for the
command and the rest for domains. -/
def commandEnv : Env :=
  { lookupsEnv with parseCommandLine := fun _ args gc => (gc, args.drop 1, args.headD "", none) }

example : execute commandEnv ["zdns", "a", "example.com"] ⟨false, "", [], ""⟩ =
    .run ⟨false, "", ["example.com"], "A"⟩ := by
  decide

end Execute

end Zdns.Cli
