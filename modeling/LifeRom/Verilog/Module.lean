import LifeRom.Field
import LifeRom.Settings

/-! # Modules -/

namespace LifeRom.Verilog

structure Module where
  name : String
  text : String
  deriving DecidableEq, Repr

namespace Signal

def x : String := "x_in"
def y : String := "y_in"
def index : String := "index_in"
def alive : String := "alive_out"

end Signal

/-- The signals inside the selector that carry the outputs of the patterns. -/
def aliveArray : String := "alive"

def input (width : Nat) (name : String) : String :=
  "input wire[" ++ toString (width - 1) ++ ":0] " ++ name

def declaration (name first : String) (others : List String) : List String :=
  let hang := Text.spaces ("module (".length + name.length)
  ("module " ++ name ++ "(" ++ first ++ ",") ::
    others.map (fun i => hang ++ i ++ ",") ++ [hang ++ "output logic " ++ Signal.alive ++ ");"]

end LifeRom.Verilog
