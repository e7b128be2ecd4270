import SchemaAtlas.Sql.Definition.Selection

/-! # Reading what a trigger does

A trigger does one or more things: it changes rows of tables, adds some or takes some away, or
asks something. Tables are named without their database there, and nothing is given back.
-/
namespace SchemaAtlas.Sql.Definition.Grammar

open Reader

def target : Reader Unit := do
  let (database?, _) ← qualifiedName
  if database?.isSome then complain .qualifiedTarget

/-- Passes which index to use for a change, which must not be said. -/
def targetIndex : Reader Unit := do
  if ← acceptWord "INDEXED" then
    expectWords ["BY"]
    let _ ← name
    complain (.targetIndex "INDEXED BY")
  else if ← acceptWord "NOT" then
    expectWords ["INDEXED"]
    complain (.targetIndex "NOT INDEXED")

def answerWords : List String := ["ROLLBACK", "ABORT", "FAIL", "IGNORE", "REPLACE"]

def conflictAnswer : Reader Unit := do
  if ← acceptWord "OR" then
    let _ ← expectOneOf answerWords

def assignmentMark : Reader Unit := do
  let _ ← expect fun t => t.isMark "=" || t.isMark "=="

/-- Reads the values that columns get. Several columns get as many values. -/
def assignments (g : Grammar) : Reader Unit := do
  let _ ← commaSeparated do
    if (← peek).isMark "(" then
      let columns ← inBrackets names
      assignmentMark
      let e ← g.anyExpr
      let isQuery := match e.head with
        | .query _ => true
        | _ => false
      if !isQuery && columns.length ≠ e.width then
        complain (.assignedCount columns.length e.width)
    else
      let _ ← name
      assignmentMark
      let _ ← g.anyExpr

def condition (g : Grammar) : Reader Unit := do
  let _ ← after? "WHERE" g.anyExpr

def change (g : Grammar) : Reader Unit := do
  conflictAnswer
  target
  targetIndex
  expectWords ["SET"]
  g.assignments
  let _ ← after? "FROM" g.readSources
  g.condition

def returning (g : Grammar) : Reader Bool := do
  if ← acceptWord "RETURNING" then
    let _ ← commaSeparated g.resultColumn
    complain .returningTrigger
    return true
  else return false

/-- Reads what happens where rows are there already, and whether more of it can follow. -/
def conflictStep (g : Grammar) : Reader Bool := do
  expectWords ["CONFLICT"]
  let hasTarget := (← peek).isMark "("
  if hasTarget then
    let _ ← inBrackets g.sortTerms
    g.condition
  expectWords ["DO"]
  if ← acceptWord "NOTHING" then return hasTarget
  expectWords ["UPDATE", "SET"]
  g.assignments
  g.condition
  return hasTarget

/-- Reads what happens where rows are there already, and what is given back. -/
def conflicts (g : Grammar) : Reader Unit := do
  let _ ← repeatFrom true fun isOpen => do
    if !isOpen then return none
    if ← acceptWord "ON" then some <$> g.conflictStep else return none
  let _ ← g.returning

def addition (g : Grammar) : Reader Unit := do
  expectWords ["INTO"]
  target
  if (← peek).isMark "(" then
    let _ ← inBrackets names
  let _ ← g.query
  g.conflicts

def action (g : Grammar) : Reader Unit := do
  if ← acceptWord "UPDATE" then g.change
  else if ← acceptWord "INSERT" then
    conflictAnswer
    g.addition
  else if ← acceptWord "REPLACE" then g.addition
  else if ← acceptWord "DELETE" then
    expectWords ["FROM"]
    target
    targetIndex
    g.condition
  else
    let _ ← g.query

def statementEnd : Reader Unit := do
  let _ ← expect (·.kind = .separator)

def actions (g : Grammar) : Reader Unit := do
  let one : Reader Unit := do
    g.action
    statementEnd
  one
  repeatFrom () fun _ => do
    if ← acceptWord "END" then return none else some <$> one

end SchemaAtlas.Sql.Definition.Grammar
