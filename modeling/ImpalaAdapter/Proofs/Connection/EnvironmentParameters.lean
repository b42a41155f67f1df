/-
This file says which parameters an environment holds, and what is wrong with an environment that
holds none.
-/

import ImpalaAdapter.Connection.Parameters
import ImpalaAdapter.Proofs.Number.Numeral

namespace ImpalaAdapter.Connection

/-- A numeral is one or more ASCII digits, and their value is taken in base ten. -/
structure IsNumeral (numeral : List Char) (value : Nat) : Prop where
  nonempty : numeral ≠ []
  inside : ∀ character ∈ numeral, isDigit character
  value_eq : Nat.ofDigitChars 10 numeral 0 = value

/-- One plus sign can stand in front of a numeral, and zeros can start it. -/
inductive SpellsNumber : List Char → Nat → Prop where
  | unsigned {numeral : List Char} {value : Nat} (isNumeral : IsNumeral numeral value) :
      SpellsNumber numeral value
  | signed {numeral : List Char} {value : Nat} (isNumeral : IsNumeral numeral value) :
      SpellsNumber ('+' :: numeral) value

variable {text : List Char} {port : UInt16}

/-- A numeral within 16 bits is the port of the same value. -/
theorem readNumeral?_port_eq_some_iff :
    (readNumeral? (UInt16.size - 1) text).map UInt16.ofNat = some port ↔
      IsNumeral text port.toNat := by
  rw [Option.map_eq_some_iff]
  constructor
  · rintro ⟨value, read, rfl⟩
    obtain ⟨nonempty, inside, same, within⟩ := readNumeral?_eq_some_iff.mp read
    have small : value < UInt16.size := Nat.lt_of_le_of_lt within (by decide)
    rw [UInt16.toNat_ofNat_of_lt' small]
    exact ⟨nonempty, inside, same⟩
  · rintro ⟨nonempty, inside, same⟩
    have within : port.toNat ≤ UInt16.size - 1 := Nat.le_sub_one_of_lt port.toNat_lt
    refine ⟨port.toNat, ?_, UInt16.ofNat_toNat⟩
    exact readNumeral?_eq_some_iff.mpr ⟨nonempty, inside, same, within⟩

theorem readPort?_eq_some_iff : readPort? text = some port ↔ SpellsNumber text port.toNat := by
  unfold readPort?
  split
  · rename_i rest
    rw [readNumeral?_port_eq_some_iff]
    constructor
    · exact SpellsNumber.signed
    · intro spells
      cases spells with
      | unsigned isNumeral =>
          have plusIsDigit := isNumeral.inside '+' List.mem_cons_self
          cases plusIsDigit
      | signed isNumeral => exact isNumeral
  · rename_i unsigned
    rw [readNumeral?_port_eq_some_iff]
    constructor
    · exact SpellsNumber.unsigned
    · intro spells
      cases spells with
      | unsigned isNumeral => exact isNumeral
      | signed isNumeral => exact absurd rfl (unsigned _)

/-- A text is refused when it spells no number or one above 16 bits. -/
theorem readPort?_eq_none_iff :
    readPort? text = none ↔ ∀ value, SpellsNumber text value → 65535 < value := by
  rw [Option.eq_none_iff_forall_ne_some]
  simp only [ne_eq, readPort?_eq_some_iff]
  constructor
  · intro refused value spells
    by_contra within
    have small : value < UInt16.size := by
      have size : UInt16.size = 65536 := rfl
      omega
    apply refused (UInt16.ofNat value)
    rwa [UInt16.toNat_ofNat_of_lt' small]
  · intro above port spells
    have large := above _ spells
    have small : port.toNat < 65536 := port.toNat_lt
    omega

/-- Each parameter is what its variable says, and a port is absent without its variable. SSL is
turned on by one of three words, and nothing sets a tunnel. -/
structure Parameters.HeldBy (environment : Environment) (parameters : Parameters) : Prop where
  database : environment.read? "MANTIS_IMPALA_DATABASE" = some parameters.database
  host : parameters.host = (environment.read? "MANTIS_IMPALA_HOST").getD ""
  port : Option.Rel (fun text port => SpellsNumber (Text.trim text.toList) port.toNat)
    (environment.read? "MANTIS_IMPALA_PORT") parameters.port
  ssl : parameters.ssl = true ↔ ∃ text, environment.read? "MANTIS_IMPALA_SSL" = some text ∧
    String.ofList (Text.lowercase (Text.trim text.toList)) ∈ ["true", "1", "yes"]
  additionalOptions : parameters.additionalOptions = environment.read? "MANTIS_IMPALA_OPTIONS"
  tunnel : parameters.tunnel = none

/-- The database is looked for before the port is read. -/
inductive Reads (environment : Environment) : Except ConnectionError Parameters → Prop where
  | noDatabase (unread : environment.read? "MANTIS_IMPALA_DATABASE" = none) :
      Reads environment (.error (.missingVariable "MANTIS_IMPALA_DATABASE"))
  | noPort {database text : String}
      (named : environment.read? "MANTIS_IMPALA_DATABASE" = some database)
      (given : environment.read? "MANTIS_IMPALA_PORT" = some text)
      (refused : ∀ value, SpellsNumber (Text.trim text.toList) value → 65535 < value) :
      Reads environment (.error (.invalidPort text))
  | held {parameters : Parameters} (held : parameters.HeldBy environment) :
      Reads environment (.ok parameters)

variable {environment : Environment} {outcome : Except ConnectionError Parameters}

variable (environment) in
theorem ssl_ofEnvironment_iff :
    ((environment.read? "MANTIS_IMPALA_SSL").map readSsl).getD false = true ↔
      ∃ text, environment.read? "MANTIS_IMPALA_SSL" = some text ∧
        String.ofList (Text.lowercase (Text.trim text.toList)) ∈ ["true", "1", "yes"] := by
  cases environment.read? "MANTIS_IMPALA_SSL" with
  | none => simp
  | some text => simp [readSsl]

theorem Reads.eq (reads : Reads environment outcome) :
    Parameters.ofEnvironment environment = outcome := by
  cases reads with
  | noDatabase unread => rw [Parameters.ofEnvironment, databaseVariable, unread]
  | noPort named given refused =>
      rw [Parameters.ofEnvironment, databaseVariable, named]
      dsimp only
      rw [portVariable, given]
      dsimp only
      rw [readPort?_eq_none_iff.mpr refused]
  | @held parameters held =>
      have ssl : ((environment.read? "MANTIS_IMPALA_SSL").map readSsl).getD false =
          parameters.ssl :=
        Bool.eq_iff_iff.mpr ((ssl_ofEnvironment_iff environment).trans held.ssl.symm)
      have port := held.port
      have tunnel := held.tunnel
      rw [Parameters.ofEnvironment, databaseVariable, held.database, ssl, ← held.host,
        ← held.additionalOptions, portVariable]
      dsimp only
      obtain ⟨host, port?, database, ssl, additionalOptions, tunnel?⟩ := parameters
      subst tunnel
      cases given : environment.read? "MANTIS_IMPALA_PORT" with
      | none =>
          rw [given] at port
          cases port
          rfl
      | some text =>
          rw [given] at port
          cases port with
          | some spells =>
              dsimp only
              rw [readPort?_eq_some_iff.mpr spells]

/-- A database and a port that is absent or valid make parameters. -/
theorem exists_heldBy {database : String} {port? : Option UInt16}
    (named : environment.read? "MANTIS_IMPALA_DATABASE" = some database)
    (port : Option.Rel (fun text port => SpellsNumber (Text.trim text.toList) port.toNat)
      (environment.read? "MANTIS_IMPALA_PORT") port?) :
    ∃ outcome, Reads environment outcome := by
  have held : Parameters.HeldBy environment
      { host := (environment.read? "MANTIS_IMPALA_HOST").getD ""
        port := port?
        database := database
        ssl := ((environment.read? "MANTIS_IMPALA_SSL").map readSsl).getD false
        additionalOptions := environment.read? "MANTIS_IMPALA_OPTIONS" } := by
    constructor
    case database => exact named
    case port => exact port
    case ssl => exact ssl_ofEnvironment_iff environment
    all_goals rfl
  exact ⟨_, .held held⟩

variable (environment) in
theorem exists_reads : ∃ outcome, Reads environment outcome := by
  cases named : environment.read? "MANTIS_IMPALA_DATABASE" with
  | none => exact ⟨_, .noDatabase named⟩
  | some database =>
      cases given : environment.read? "MANTIS_IMPALA_PORT" with
      | none =>
          apply exists_heldBy named
          rw [given]
          exact .none
      | some text =>
          cases read : readPort? (Text.trim text.toList) with
          | none => exact ⟨_, .noPort named given (readPort?_eq_none_iff.mp read)⟩
          | some port =>
              apply exists_heldBy named
              rw [given]
              exact .some (readPort?_eq_some_iff.mp read)

/-- Parameters are read when the database is named and the port, if it is given, is a number within
16 bits. A missing database comes before a wrong port. -/
theorem ofEnvironment_eq_iff (environment : Environment)
    (outcome : Except ConnectionError Parameters) :
    Parameters.ofEnvironment environment = outcome ↔ Reads environment outcome := by
  constructor
  · rintro rfl
    obtain ⟨outcome, reads⟩ := exists_reads environment
    rwa [reads.eq]
  · exact Reads.eq

/-- Zeros can start a port of any length. -/
example : (["+0000000021050", "65536", "+", "-1", "80.5"].map fun text =>
    (readPort? text.toList).map UInt16.toNat) = [some 21050, none, none, none, none] := by
  decide

end ImpalaAdapter.Connection
