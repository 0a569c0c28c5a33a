import Lookahead.Batch.Choices
import Lookahead.Text.Decimal

/-!
# Options

What stands behind the input on a command line: flags, and options with a value.  What makes no
sense is passed over with a warning, and of two options that contradict each other the later one
counts.
-/

namespace Lookahead

/-- What a user asks for on the command line. -/
structure Options where
  /-- The trace is shown. -/
  trace : Bool
  /-- The result is shown as an object. -/
  json : Bool
  /-- Neither listing nor progress is shown. -/
  quiet : Bool
  /-- The input is a listing. -/
  fromListing : Bool
  /-- Where the listing is written to. -/
  listingPath : Option Path
  /-- Where preferences are read from. -/
  preferencesPath : Option Path
  /-- Where the log is written to. -/
  logPath : Option Path
  batch : BatchChoices

/-- An option without a value. -/
inductive Flag where
  | trace | json | fromListing | sequential | noRecursion | failFast | quiet
deriving DecidableEq, Repr

namespace Flag

/-- The flags. -/
def all : List Flag := [trace, json, fromListing, sequential, noRecursion, failFast, quiet]

/-- A flag as it is written. -/
def text : Flag → String
  | trace => "--trace"
  | json => "--json"
  | fromListing => "--from-tokens"
  | sequential => "--sequential"
  | noRecursion => "--no-recursive"
  | failFast => "--fail-fast"
  | quiet => "--quiet"

/-- The flag written so. -/
def ofText? (s : String) : Option Flag := all.find? (·.text == s)

/-- What a flag asks for. -/
def apply (o : Options) : Flag → Options
  | trace => { o with trace := true }
  | json => { o with json := true }
  | fromListing => { o with fromListing := true }
  | sequential => { o with batch := { o.batch with maxThreads := 1 } }
  | noRecursion => { o with batch := { o.batch with recursive := false } }
  | failFast => { o with batch := { o.batch with failFast := true } }
  | quiet => { o with quiet := true, batch := { o.batch with progress := false } }

end Flag

/-- An option with a value. -/
inductive Setting where
  | listingPath | preferencesPath | logPath | threads | maxFiles
deriving DecidableEq, Repr

namespace Setting

/-- The settings. -/
def all : List Setting := [listingPath, preferencesPath, logPath, threads, maxFiles]

/-- A setting as it is written. -/
def text : Setting → String
  | listingPath => "--tokens-out"
  | preferencesPath => "--config"
  | logPath => "--log-file"
  | threads => "--threads"
  | maxFiles => "--max-files"

/-- The setting written so. -/
def ofText? (s : String) : Option Setting := all.find? (·.text == s)

/-- What a setting has for a value. -/
def valueText : Setting → String
  | listingPath | preferencesPath | logPath => "a file path"
  | threads | maxFiles => "a number"

/-- What a setting asks for with a value, or what is wrong with the value. -/
def apply (o : Options) (value : String) : Setting → Except String Options
  | listingPath => .ok { o with listingPath := some value }
  | preferencesPath => .ok { o with preferencesPath := some value }
  | logPath => .ok { o with logPath := some value }
  | threads =>
    match Text.readNat? Text.greatest64 value.toList with
    | some n => .ok { o with batch := { o.batch with maxThreads := max n 1 } }
    | none => .error s!"Invalid thread count '{value}', using default"
  | maxFiles =>
    match Text.readNat? Text.greatest64 value.toList with
    | some n => .ok { o with batch := { o.batch with maxFiles := some n } }
    | none => .error s!"Invalid max files '{value}', ignoring"

end Setting

namespace Options

/-- The options of a user who gives none. -/
def standard (available : Nat) (preferences : Preferences) : Options where
  trace := false
  json := false
  quiet := false
  fromListing := false
  listingPath := none
  preferencesPath := none
  logPath := none
  batch := { BatchChoices.standard available preferences with progress := true }

/-- Take up arguments; `warnings` holds what was wrong so far, latest first. -/
def takeUp (o : Options) (warnings : List String) : List String → Options × List String
  | [] => (o, warnings.reverse)
  | arg :: rest =>
    match Flag.ofText? arg with
    | some f => takeUp (f.apply o) warnings rest
    | none =>
      match Setting.ofText? arg with
      | none => takeUp o (s!"Unknown option '{arg}'" :: warnings) rest
      | some s =>
        match rest with
        | [] => (o, (s!"{s.text} requires {s.valueText}" :: warnings).reverse)
        | value :: rest =>
          match s.apply o value with
          | .ok o => takeUp o warnings rest
          | .error w => takeUp o (w :: warnings) rest

end Options

end Lookahead
