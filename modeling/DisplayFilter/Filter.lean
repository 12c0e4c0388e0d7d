/-
**Compiling filters with options.**

The options of a compilation are applied one after the other to the defaults, under which branches
are optimized, a bare field is tested for presence, trees are validated and nothing is logged.

* `FilterOptions.collect`: the settings that a list of options makes.
* `compileFilter`: the program of a tree under these settings, with its log.
-/

import DisplayFilter.Log

namespace DisplayFilter

/-- The settings of a compilation; without a registry the one at hand is used. -/
structure FilterOptions where
  optimize : Bool
  returnValues : Bool
  skipValidation : Bool
  chosen : Option Registry
  log? : Option LogLevel

/-- One option of a compilation. -/
inductive FilterOption where
  | optimize (enabled : Bool)
  | returnValues (enabled : Bool)
  | registry (chosen : Option Registry)
  | log (level : LogLevel)
  | withoutValidation

namespace FilterOptions

/-- The settings when no option is given. -/
def standard : FilterOptions := ⟨true, false, false, none, none⟩

/-- The settings with one more option applied. -/
def apply (options : FilterOptions) : FilterOption → FilterOptions
  | .optimize enabled => { options with optimize := enabled }
  | .returnValues enabled => { options with returnValues := enabled }
  | .registry chosen => { options with chosen }
  | .log level => { options with log? := some level }
  | .withoutValidation => { options with skipValidation := true }

/-- The settings that a list of options makes; a later option wins. -/
def collect (options : List FilterOption) : FilterOptions :=
  options.foldl apply standard

/-- The configuration of the compiler, with a registry for when none is set. -/
def config (options : FilterOptions) (registry : Registry) : CompileConfig where
  registry := options.chosen.getD registry
  optimize := options.optimize
  returnValues := options.returnValues
  skipValidation := options.skipValidation

end FilterOptions

/-- The program of a tree under the given options, with what its log shows. -/
def compileFilter (registry : Registry) (options : List FilterOption) (root : Node) :
    Except Fault (Program × List CompileEvent) :=
  let settings := FilterOptions.collect options
  (compile (settings.config registry) root).map fun (program, events) =>
    (program, logged settings.log? events)

end DisplayFilter
