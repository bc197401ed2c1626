import Workflow.Execution.Basic

namespace Workflow

/-!
# Lists of executions

A list is asked for by workflow and status, a page at a time.  The answer may name its executions in
one of three ways.
-/

/-- Which executions are asked for. -/
structure ExecutionFilter where
  workflowId : Option String := none
  status : Option ExecutionStatus := none
  page : Option UInt32 := none
  limit : Option UInt32 := none

/-- One page of executions. -/
structure ExecutionPage where
  executions : List Execution
  total : Option Nat
  page : Option UInt32
  limit : Option UInt32

open Decoder

/-- The fields of a page read so far. -/
structure ExecutionPageFields where
  executions : Option (List Execution) := none
  total : Option (Option Nat) := none
  page : Option (Option UInt32) := none
  limit : Option (Option UInt32) := none

/-- A natural number of 64 bits. -/
def naturalDecoder : Decoder Nat := fun medium source =>
  (integer 0 (Int.pow 2 64) medium source).map Int.toNat

/-- How the fields of a page are read: it needs executions, and may leave out how many there are. -/
def ExecutionPage.fieldGroup : Group ExecutionPageFields ExecutionPage where
  names := ["executions", "total", "page", "limit"]
  start := {}
  visit := fun medium fields key source =>
    if key = "executions" ∨ key = "data" ∨ key = "items" then
      (once "executions" fields.executions (list Execution.decoder medium source)).map
        ({ fields with executions := · })
    else if key = "total" then
      (once "total" fields.total (nullable naturalDecoder medium source)).map
        ({ fields with total := · })
    else if key = "page" then
      (once "page" fields.page (nullable wordDecoder medium source)).map ({ fields with page := · })
    else if key = "limit" then
      (once "limit" fields.limit (nullable wordDecoder medium source)).map
        ({ fields with limit := · })
    else skip fields source
  finish := fun absent fields => do
    return ⟨← required absent "executions" fields.executions, fields.total.getD none,
      fields.page.getD none, fields.limit.getD none⟩

/-- A page of executions. -/
def ExecutionPage.decoder : Decoder ExecutionPage := group ExecutionPage.fieldGroup

end Workflow
