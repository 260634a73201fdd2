import DailySign.Clock

/-! # Users, logs and the storage calls

Each storage call takes its outcome from outside: `none` succeeds, and `some err` fails with
`err` and changes nothing. -/
namespace DailySign

/-- The settings the code reads (`common.QuotaForSign`, `common.SignInDays`,
`ratio_setting.IsGroupSignEnabled`), the quota formatter `logger.LogQuota`, and `time.Local`. -/
structure Config where
  quotaForSign : Int
  signInDays : Int
  isGroupSignEnabled : String → Bool
  logQuota : Int → String
  loc : Location

structure User where
  username : String
  group : String
  createdTime : Int
  quota : Int
  deriving DecidableEq, Repr

inductive LogType where
  | sign
  | other (code : Nat)
  deriving DecidableEq, Repr

structure Log where
  userId : Int
  username : String
  createdAt : Int
  type : LogType
  content : String
  quota : Int
  deriving DecidableEq, Repr

/-- The user rows by id, the log table in insertion order, and what `common.SysLog` wrote. -/
structure Store where
  users : Int → Option User
  logs : List Log
  sysLog : List String

structure SignResult where
  success : Bool
  message : String
  quota : Int
  deriving DecidableEq, Repr

/-- `SignStatus`; `date` is the day number that `Format("2006-01-02")` renders. -/
structure SignStatus where
  date : Int
  signed : Bool
  deriving DecidableEq, Repr

structure SignInfo where
  enabled : Bool := false
  quotaPerSign : Int := 0
  signInDays : Int := 0
  signedToday : Bool := false
  canSign : Bool := false
  message : String := ""
  remainingDays : Int := 0
  totalSignDays : Int := 0
  signList : List SignStatus := []
  deriving DecidableEq, Repr

def recordNotFound : String := "record not found"

def getUserById (s : Store) (id : Int) (fault : Option String) : Except String User :=
  match fault with
  | some err => .error err
  | none =>
    match s.users id with
    | some user => .ok user
    | none => .error recordNotFound

theorem getUserById_ok {s : Store} {id : Int} {fault : Option String} {user : User} :
    getUserById s id fault = .ok user ↔ fault = none ∧ s.users id = some user := by
  cases fault with
  | some err => simp [getUserById]
  | none => cases h : s.users id <;> simp [getUserById, h]

def getUsernameById (s : Store) (id : Int) (fault : Option String) : String :=
  match fault with
  | some _ => ""
  | none => ((s.users id).map (·.username)).getD ""

def Store.credit (s : Store) (id quota : Int) : Store :=
  { s with users := fun i =>
      if i = id then (s.users i).map fun u => { u with quota := u.quota + quota }
      else s.users i }

/-- `IncreaseUserQuota(id, quota, true)`. -/
def increaseUserQuota (s : Store) (id quota : Int) (fault : Option String) :
    Except String Store :=
  match fault with
  | some err => .error err
  | none => .ok (s.credit id quota)

/-- `LOG_DB.Create(log)`, and the `common.SysLog` line `DoSign` writes when it fails. -/
def createSignLog (s : Store) (log : Log) (fault : Option String) : Store :=
  match fault with
  | some err => { s with sysLog := s.sysLog ++ ["failed to record sign log: " ++ err] }
  | none => { s with logs := s.logs ++ [log] }

@[simp] theorem credit_logs (s : Store) (id quota : Int) : (s.credit id quota).logs = s.logs := rfl

@[simp] theorem credit_sysLog (s : Store) (id quota : Int) :
    (s.credit id quota).sysLog = s.sysLog := rfl

@[simp] theorem credit_users_self (s : Store) (id quota : Int) :
    (s.credit id quota).users id =
      (s.users id).map fun u => { u with quota := u.quota + quota } := by
  simp [Store.credit]

@[simp] theorem credit_users_of_ne (s : Store) {id i : Int} (quota : Int) (h : i ≠ id) :
    (s.credit id quota).users i = s.users i := by
  simp [Store.credit, h]

@[simp] theorem createSignLog_users (s : Store) (log : Log) (fault : Option String) :
    (createSignLog s log fault).users = s.users := by
  cases fault <;> rfl

theorem createSignLog_logs (s : Store) (log : Log) (fault : Option String) :
    (createSignLog s log fault).logs = s.logs ++ (if fault = none then [log] else []) := by
  cases fault <;> simp [createSignLog]

def signLogs (s : Store) (userId : Int) : List Log :=
  s.logs.filter fun log => decide (log.userId = userId ∧ log.type = .sign)

def countSignLogs (s : Store) (userId : Int) (fault : Option String) : Except String Int :=
  match fault with
  | some err => .error err
  | none => .ok (signLogs s userId).length

theorem countSignLogs_ok {s : Store} {userId : Int} {fault : Option String} {n : Int}
    (h : countSignLogs s userId fault = .ok n) : n = (signLogs s userId).length := by
  cases fault with
  | some err => cases h
  | none => exact (Except.ok.inj h).symm

def findSignLogs (s : Store) (userId : Int) (fault : Option String) : Except String (List Log) :=
  match fault with
  | some err => .error err
  | none => .ok (signLogs s userId)

@[simp] theorem signLogs_append (s : Store) (userId : Int) (logs : List Log) :
    signLogs { s with logs := s.logs ++ logs } userId =
      signLogs s userId ++ logs.filter fun log => decide (log.userId = userId ∧ log.type = .sign) :=
  List.filter_append _ _

end DailySign
