/-! The standard tokens of a number pattern: the characters that call them, the order in which they
are asked, and the weights that order the steps they produce. -/

namespace NumberPattern

inductive Token where
  | percent
  | byteUnit
  | abbreviation
  | openParen
  | plus
  | integer
  | ordinal
  | clock
  | grouping
  | point
  | decimals
  | closeParen
  | currency
  | minus
deriving DecidableEq, Repr

namespace Token

/-- In the order of registration. -/
def all : List Token :=
  [percent, byteUnit, abbreviation, openParen, plus, integer, ordinal, clock, grouping, point,
    decimals, closeParen, currency, minus]

def triggers : Token → String
  | percent => "%"
  | byteUnit => "b"
  | abbreviation => "a"
  | openParen => "("
  | plus => "+"
  | integer => "0"
  | ordinal => "o"
  | clock => "0"
  | grouping => ","
  | point => ".["
  | decimals => "0["
  | closeParen => ")"
  | currency => "$"
  | minus => "-"

/-- A clock is looked for before an integer, decimals after it. -/
def priority : Token → Int
  | clock => -10
  | decimals => 10
  | _ => 0

theorem mem_all (token : Token) : token ∈ all := by cases token <;> decide

end Token

/-! Lighter steps run first. -/
namespace Weight

def scale : Int := -900
def leadingSign : Int := -100
def integer : Int := 0
def delimiter : Int := 300
def decimals : Int := 600
def trailingSign : Int := 700
def currency : Int := 900
def minus : Int := 1200
def literal : Int := 2000

end Weight

end NumberPattern
