/-!
# Compiler options and their overrides

Language, standards, include paths and macros are set once for all analyzers. The block of a single
analyzer may override each of them, and inherits what it does not override (`Options.cascade`).
-/

namespace LintRelay

/-- The source language that analyzers are told. -/
inductive Language where
  | c
  | cpp
deriving DecidableEq, Repr, Inhabited

/-- The language's name on a command line. -/
def Language.name : Language → String
  | .c => "c"
  | .cpp => "c++"

/-- What an analyzer has to know to read a source file. -/
structure Options where
  /-- The source language. -/
  language : Language
  /-- The language standards. -/
  standard : List String
  /-- The directories in which included files are looked up. -/
  includePaths : List String
  /-- The macros to define. -/
  defines : List String
  /-- The macros to undefine. -/
  undefines : List String
deriving DecidableEq, Repr

/-- The options that an analyzer's block sets for itself. -/
structure Overrides where
  /-- The source language. -/
  language : Option Language
  /-- The language standards. -/
  standard : Option (List String)
  /-- The directories in which included files are looked up. -/
  includePaths : Option (List String)
  /-- The macros to define. -/
  defines : Option (List String)
  /-- The macros to undefine. -/
  undefines : Option (List String)
deriving DecidableEq, Repr

/-- A block that overrides nothing. -/
def Overrides.none : Overrides := ⟨.none, .none, .none, .none, .none⟩

/-- The options of an analyzer: its own where it sets them, and the shared ones elsewhere. -/
def Options.cascade (shared : Options) (own : Overrides) : Options where
  language := own.language.getD shared.language
  standard := own.standard.getD shared.standard
  includePaths := own.includePaths.getD shared.includePaths
  defines := own.defines.getD shared.defines
  undefines := own.undefines.getD shared.undefines

end LintRelay
