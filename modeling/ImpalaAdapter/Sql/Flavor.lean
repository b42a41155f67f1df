/-
This file describes the two spellings of SQL.
-/

import ImpalaAdapter.Sql.Profile
import ImpalaAdapter.Text.Quoted

namespace ImpalaAdapter.Sql

/-- A flavor decides how tokens are spelled. -/
inductive Flavor where
  | generic
  | impala
deriving DecidableEq, Inhabited

namespace Flavor

def profile : Flavor → Profile
  | .generic => .generic
  | .impala => .impala

def name (flavor : Flavor) : String :=
  flavor.profile.name

/-- Plain division stands for the integer division that generic SQL does not have. -/
def integerDivision : Flavor → String
  | .generic => "/"
  | .impala => "DIV"

end Flavor

def QuoteStyle.identifier (style : QuoteStyle) (name : String) : String :=
  Text.quoted style.mark name

/-- Strings stand between apostrophes in every flavor. -/
def stringQuote : Char := '\x27'

def quotedString (text : String) : String :=
  Text.quoted stringQuote text

end ImpalaAdapter.Sql
