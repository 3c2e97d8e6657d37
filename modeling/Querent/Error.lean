/-! What can go wrong, and how it is worded. -/

namespace Querent

/-- Why a clause or a statement cannot be built. -/
inductive ClauseFault
  | missingKey
  | missingOperator (key : String)
  | unsupportedOperator (token key : String)
  | listWithoutIn (key : String)
  | missingUpperBound (operator key : String)
  | emptyList (key : String)
  | missingWildcard (operator key : String)
  | notLoneFragment (text : String)
  | mixedFragments
  | missingColumn (clause : String)
  | missingTable
  | missingAssignment
  | mixedModifiers
  | havingBeforeGroupBy
  | unknownModifier (text : String)
deriving DecidableEq, Repr

/-- The wording of a clause fault. -/
def ClauseFault.message : ClauseFault → String
  | missingKey => "condition without a key"
  | missingOperator key => s!"missing operator for `{key}`"
  | unsupportedOperator token key => s!"unsupported operator `{token}` for `{key}`"
  | listWithoutIn key => s!"list value only allowed with IN (`{key}`)"
  | missingUpperBound operator key => s!"{operator} on `{key}` needs an upper bound"
  | emptyList key => s!"empty IN list for `{key}`"
  | missingWildcard operator key => s!"{operator} pattern for `{key}` has no wildcard"
  | notLoneFragment text => s!"fragment is not a lone WHERE/HAVING clause: {text}"
  | mixedFragments => "raw fragments cannot be mixed with conditions"
  | missingColumn clause => s!"{clause} needs at least one column"
  | missingTable => "table name is required"
  | missingAssignment => "assignments need at least one named column"
  | mixedModifiers => "keyword fragments cannot be mixed with conditions"
  | havingBeforeGroupBy => "HAVING requires an earlier GROUP BY"
  | unknownModifier text => s!"unrecognized select modifier: {text}"

/-- Why a configuration cannot be used. -/
inductive ConfigFault
  | missingDsn
  | missingUser
  | missingPassword
  | missingCacheDirectory
deriving DecidableEq, Repr

/-- The wording of a configuration fault. -/
def ConfigFault.message : ConfigFault → String
  | missingDsn => "a dsn (or database path) is required"
  | missingUser => "user is required"
  | missingPassword => "password is required"
  | missingCacheDirectory => "cache directory is required when caching is enabled"

/-- A code and a message with which a backend reports on an execution. -/
structure BackendFault where
  code : Int
  message : String
deriving DecidableEq, Repr

namespace BackendFault

/-- The code of a value or a column out of range. -/
def outOfRange : Int := 25

/-- Whether a value or a column was out of range, which spoils no result. -/
def isOutOfRange (fault : BackendFault) : Bool :=
  fault.code == outOfRange

/-- The code and the message in one line. -/
def text (fault : BackendFault) : String :=
  toString fault.code ++ ", " ++ fault.message

end BackendFault

/-- Why an operation gives no result. -/
inductive Failure
  /-- A text is no JSON, or not of the form that is read. What a reader says of the place and the
  kind of the flaw is not kept. -/
  | json
  | config (reason : String)
  | connection (reason : String)
  | clause (reason : String)
  | backend (fault : BackendFault)
  | cache (reason : String)
  | execution (reason : String)
  /-- What SQLite says for itself, without a heading. -/
  | sqlite (reason : String)
deriving DecidableEq, Repr

namespace Failure

/-- The wording of a failure; one wording stands for whatever is said of a text that is no JSON. -/
def message : Failure → String
  | json => "unreadable JSON"
  | config reason => "Configuration error: " ++ reason
  | connection reason => "Connection error: " ++ reason
  | clause reason => "Clause error: " ++ reason
  | backend fault => "Driver error: " ++ fault.text
  | cache reason => "Cache I/O error: " ++ reason
  | execution reason => "SQL execution error: " ++ reason
  | sqlite reason => reason

/-- The failure to connect that another failure amounts to. -/
def asConnection : Failure → Failure
  | connection reason => connection reason
  | other => connection other.message

end Failure

/-- The failure that a clause fault is. -/
def ClauseFault.failure (fault : ClauseFault) : Failure :=
  .clause fault.message

/-- The failure that a configuration fault is. -/
def ConfigFault.failure (fault : ConfigFault) : Failure :=
  .config fault.message

end Querent
