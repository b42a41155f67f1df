/-
This file says which descriptors have the same connection string.
-/

import ImpalaAdapter.Proofs.Connection.Query
import ImpalaAdapter.Proofs.Number.Numeral

namespace ImpalaAdapter.Connection.Descriptor

open Text

variable {longer shorter : Descriptor}

/-- The longer host goes on with the port of the other address and with a path. -/
def ContinuesHost (longer shorter : Descriptor) : Prop :=
  ∃ path, longer.host = shorter.host ++ ":" ++ toString shorter.port.toNat ++ "/" ++ path

/-- At the same address the longer database goes on with a query. -/
def ContinuesDatabase (longer shorter : Descriptor) : Prop :=
  longer.host = shorter.host ∧ longer.port = shorter.port ∧
    ∃ name query, shorter.property? databaseKey = some name ∧
      longer.property? databaseKey = some (name ++ "?" ++ query)

/-- A part of one connection string takes up a divider of the other. -/
def Continues (longer shorter : Descriptor) : Prop :=
  ContinuesHost longer shorter ∨ ContinuesDatabase longer shorter

/-- Only a host with a slash or a database with a question mark takes up a divider. -/
theorem Continues.mem_divider (continues : longer.Continues shorter) :
    '/' ∈ longer.host.toList ∨
      ∃ name, longer.property? databaseKey = some name ∧ '?' ∈ name.toList := by
  rcases continues with ⟨path, host⟩ | ⟨_, _, name, query, _, database⟩
  · left
    rw [host]
    simp
  · right
    exact ⟨_, database, by simp⟩

/-- The colon before the port is found again unless one host takes it up. -/
theorem address_cases {host otherHost rest otherRest : List Char} {port otherPort : Nat}
    (same : host ++ ':' :: (digits port ++ '/' :: rest) =
      otherHost ++ ':' :: (digits otherPort ++ '/' :: otherRest)) :
    (host = otherHost ∧ port = otherPort ∧ rest = otherRest) ∨
      (∃ path, otherHost = host ++ ':' :: (digits port ++ '/' :: path)) ∨
        ∃ path, host = otherHost ++ ':' :: (digits otherPort ++ '/' :: path) := by
  have noColon (number : Nat) : ':' ∉ digits number := not_mem_digits number (by decide)
  have noSlash (number : Nat) : '/' ∉ digits number := not_mem_digits number (by decide)
  rcases append_cons_cases same with ⟨hosts, _, rests⟩ | ⟨more, rfl, taken⟩ | ⟨more, rfl, taken⟩
  · obtain ⟨ports, rests⟩ := append_divider_inj (noSlash port) (noSlash otherPort) rests
    have numbers := congrArg numeralValue ports
    rw [numeralValue_digits, numeralValue_digits] at numbers
    exact .inl ⟨hosts, numbers, rests⟩
  · obtain ⟨path, rfl⟩ := exists_append_divider (by decide) (noColon port) taken
    exact .inr (.inl ⟨path, rfl⟩)
  · obtain ⟨path, rfl⟩ := exists_append_divider (by decide) (noColon otherPort) taken
    exact .inr (.inr ⟨path, rfl⟩)

/-- The database and the query have all the properties. -/
theorem properties_eq {first second : Descriptor}
    (database : first.property? databaseKey = second.property? databaseKey)
    (query : first.queryProperties = second.queryProperties) :
    first.properties = second.properties := by
  apply Std.ExtTreeMap.ext_getElem?
  intro key
  by_cases isDatabase : key = databaseKey
  · rw [isDatabase]
    exact database
  · ext value
    have inFirst : (key, value) ∈ first.queryProperties ↔ _ := mem_queryProperties
    have inSecond : (key, value) ∈ second.queryProperties ↔ _ := mem_queryProperties
    rw [query] at inFirst
    simpa [isDatabase, property?] using inFirst.symm.trans inSecond

theorem continuesHost_of_toList {path : List Char}
    (host : longer.host.toList =
      shorter.host.toList ++ ':' :: (digits shorter.port.toNat ++ '/' :: path)) :
    longer.ContinuesHost shorter := by
  refine ⟨String.ofList path, String.toList_injective ?_⟩
  simp only [String.toList_append, toList_toString, String.toList_ofList, host]
  simp

theorem continuesDatabase_of_toList {name longerName : String} {query : List Char}
    (host : longer.host = shorter.host) (port : longer.port = shorter.port)
    (path : shorter.property? databaseKey = some name)
    (longerPath : longer.property? databaseKey = some longerName)
    (goesOn : longerName.toList = name.toList ++ '?' :: query) :
    longer.ContinuesDatabase shorter := by
  refine ⟨host, port, name, String.ofList query, path, ?_⟩
  rw [longerPath]
  apply congrArg some
  apply String.toList_injective
  simp [goesOn]

theorem toList_connectionString {parameters : Parameters} {database : String}
    (path : (ofParameters parameters).property? databaseKey = some database) :
    (ofParameters parameters).connectionString.toList =
      "impala://".toList ++ ((ofParameters parameters).host.toList ++
        ':' :: (digits (ofParameters parameters).port.toNat ++
          '/' :: (database.toList ++ '?' :: (ofParameters parameters).queryText.toList))) := by
  rw [connectionString_ofParameters path]
  simp only [String.toList_append, toList_toString]
  simp

/-- Two connections with the same connection string have the same address, database and properties,
unless a host or a database of one takes up a divider of the other. At one address the first
question mark divides the database from the query. -/
theorem same_or_continues {first second : Parameters}
    {firstAdvised secondAdvised : Advised Descriptor} {firstEvents secondEvents : List Event}
    (firstBuilt : build first = .ok (firstAdvised, firstEvents))
    (secondBuilt : build second = .ok (secondAdvised, secondEvents))
    (same : firstAdvised.value.connectionString = secondAdvised.value.connectionString) :
    (firstAdvised.value.host = secondAdvised.value.host ∧
      firstAdvised.value.port = secondAdvised.value.port ∧
      firstAdvised.value.property? databaseKey = secondAdvised.value.property? databaseKey ∧
      firstAdvised.value.properties = secondAdvised.value.properties) ∨
    firstAdvised.value.Continues secondAdvised.value ∨
    secondAdvised.value.Continues firstAdvised.value := by
  rw [(build_eq_ok firstBuilt).2, (build_eq_ok secondBuilt).2] at same ⊢
  have firstPath := property?_databaseKey first
  have secondPath := property?_databaseKey second
  have letters := congrArg String.toList same
  rw [toList_connectionString firstPath, toList_connectionString secondPath] at letters
  rcases address_cases (List.append_cancel_left letters) with
    ⟨hosts, ports, rests⟩ | ⟨path, goesOn⟩ | ⟨path, goesOn⟩
  case inr.inl => exact .inr (.inr (.inl (continuesHost_of_toList goesOn)))
  case inr.inr => exact .inr (.inl (.inl (continuesHost_of_toList goesOn)))
  have host := String.toList_injective hosts
  have port := UInt16.toNat_inj.mp ports
  rcases append_cons_cases rests with
    ⟨databases, _, queries⟩ | ⟨query, goesOn, _⟩ | ⟨query, goesOn, _⟩
  · have database : (ofParameters first).property? databaseKey =
        (ofParameters second).property? databaseKey := by
      rw [firstPath, secondPath, String.toList_injective databases]
    have query : (ofParameters first).queryProperties = (ofParameters second).queryProperties := by
      rw [← readEntries_queryText, ← readEntries_queryText, queries]
    exact .inl ⟨host, port, database, properties_eq database query⟩
  · exact .inr (.inr (.inr
      (continuesDatabase_of_toList host.symm port.symm firstPath secondPath goesOn)))
  · exact .inr (.inl (.inr (continuesDatabase_of_toList host port secondPath firstPath goesOn)))

/-- The default port is left out here, and blanks stand around the host. -/
def impliedPort : Parameters where
  host := " h "
  database := "sales"
  additionalOptions := some "x=1&X=2?3"

/-- The same connection is described with its port, and one of its options is repeated. -/
def statedPort : Parameters where
  host := "h"
  port := some 21050
  database := "sales"
  additionalOptions := some "?x=0;X = 2?3 ;;x=1"

theorem same_or_continues_statedPort :
    ∃ implied impliedEvents stated statedEvents,
      build impliedPort = .ok (implied, impliedEvents) ∧
      build statedPort = .ok (stated, statedEvents) ∧
      implied.value.connectionString = stated.value.connectionString ∧
      implied.value.properties = stated.value.properties := by
  have impliedBuilt := build_named (by decide : isBlankText impliedPort.database = false)
  have statedBuilt := build_named (by decide : isBlankText statedPort.database = false)
  have same : (ofParameters impliedPort).connectionString =
      (ofParameters statedPort).connectionString := by
    decide
  have plain {longer shorter : Descriptor} (host : longer.host = "h")
      (path : longer.property? databaseKey = some "sales") : ¬ longer.Continues shorter := by
    intro continues
    rcases continues.mem_divider with slash | ⟨name, found, mark⟩
    · rw [host] at slash
      exact absurd slash (by decide)
    · obtain rfl : "sales" = name := Option.some.inj (path.symm.trans found)
      exact absurd mark (by decide)
  refine ⟨_, _, _, _, impliedBuilt, statedBuilt, same, ?_⟩
  rcases same_or_continues impliedBuilt statedBuilt same with equal | continues | continues
  · exact equal.2.2.2
  · exact absurd continues (plain (by decide) (by decide))
  · exact absurd continues (plain (by decide) (by decide))

/-- The name of this database looks like the start of a query. -/
def queryInDatabase : Parameters where
  host := "h"
  database := "sales?B=2"
  additionalOptions := some "A=1"

/-- The value of this option looks like the end of one. -/
def queryInOption : Parameters where
  host := "h"
  database := "sales"
  additionalOptions := some "B=2?A=1"

/-- This host looks like an address with a path. -/
def addressInHost : Parameters where
  host := "h:21050/x"
  database := "sales"

/-- The name of this database looks like the end of an address. -/
def addressInDatabase : Parameters where
  host := "h"
  database := "x:21050/sales"

/-- Different databases and options can have the same connection string, and so can different
hosts. -/
theorem connectionString_collides :
    (∃ first firstEvents second secondEvents,
      build queryInDatabase = .ok (first, firstEvents) ∧
      build queryInOption = .ok (second, secondEvents) ∧
      first.value.connectionString = second.value.connectionString ∧
      first.value.property? databaseKey = some "sales?B=2" ∧
      second.value.property? databaseKey = some "sales" ∧
      first.value.property? "A" = some "1" ∧ second.value.property? "A" = none) ∧
    ∃ first firstEvents second secondEvents,
      build addressInHost = .ok (first, firstEvents) ∧
      build addressInDatabase = .ok (second, secondEvents) ∧
      first.value.connectionString = second.value.connectionString ∧
      first.value.host = "h:21050/x" ∧ second.value.host = "h" := by
  constructor
  · refine ⟨_, _, _, _, build_named (by decide), build_named (by decide), ?_⟩
    decide
  · refine ⟨_, _, _, _, build_named (by decide), build_named (by decide), ?_⟩
    decide

end ImpalaAdapter.Connection.Descriptor
