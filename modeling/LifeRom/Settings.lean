import LifeRom.Text.Lines

/-! # Settings -/

namespace LifeRom

structure Settings where
  /-- The name of the module that selects between the patterns. -/
  selectorName : String := "pattern_selector"
  /-- Whether undeclared nets are forbidden around every module. -/
  guardNets : Bool := true
  /-- Spaces for each level of indentation; no bound on memory is modelled. -/
  indent : Nat := 4
  /-- How many workers share the sources of a bank. -/
  workers : Nat := 1
  deriving DecidableEq, Repr

namespace Settings

def indentation (s : Settings) (level : Nat) : String :=
  Text.spaces (s.indent * level)

/-- The lines of a module between the directives that forbid undeclared nets and allow them again,
if the settings ask for them. -/
def guarded (s : Settings) (lines : List String) : List String :=
  if s.guardNets then "`default_nettype none" :: lines ++ ["`default_nettype wire"] else lines

end Settings

end LifeRom
