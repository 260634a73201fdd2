import DailySign.Ledger

/-! # The handlers

`controller/sign.go`: the id check, `common.ApiError`, and the body `c.JSON` sends. -/
namespace DailySign

structure Response (α : Type) where
  success : Bool
  message : String
  data : Option α
  deriving DecidableEq, Repr

/-- Modelled from the spec: `common.ApiError` is not under src/, and a storage fault surfaces as
a generic failure response, `success: false` with the error's text. -/
def apiError {α : Type} (err : String) : Response α := ⟨false, err, none⟩

def notLoggedIn {α : Type} : Response α := ⟨false, "用户未登录", none⟩

/-- What `GetSignList` and `GetSignInfo` share; the model call is `none` when it runs out of
fuel. -/
def handleRead {α : Type} (userId : Int) (call : Option (Except String α)) :
    Option (Response α) :=
  if userId = 0 then some notLoggedIn else
  call.map fun
    | .error err => apiError err
    | .ok a => ⟨true, "", some a⟩

def getSignList (cfg : Config) (s : Store) (userId : Int) (e : ListEnv) (fuel : Nat) :
    Option (Response (List SignStatus)) :=
  handleRead userId (getUserSignList cfg s userId e fuel)

def getSignInfo (cfg : Config) (s : Store) (userId : Int) (e : InfoEnv) (fuel : Nat) :
    Option (Response SignInfo) :=
  handleRead userId (getUserSignInfo cfg s userId e fuel)

def signResponse : Except String SignResult → Response Int
  | .error err => apiError err
  | .ok r => ⟨r.success, r.message, some r.quota⟩

def sign (cfg : Config) (s : Store) (userId : Int) (e : SignEnv) : Response Int × Store :=
  if userId = 0 then (notLoggedIn, s) else
  (signResponse (doSign cfg s userId e).1, (doSign cfg s userId e).2)

@[simp] theorem signResponse_success (r : Except String SignResult) :
    (signResponse r).success = granted r := by
  cases r <;> rfl

/-! ## What `Sign` reports -/

/-- `success: true` comes with `data.quota = QuotaForSign > 0` credited to the user's row, and
`success: false` leaves the user table as it was. -/
theorem sign_reports_credit (cfg : Config) (s : Store) (userId : Int) (e : SignEnv) :
    ((sign cfg s userId e).1.success = true →
      0 < cfg.quotaForSign ∧ (sign cfg s userId e).1.data = some cfg.quotaForSign ∧
      ∃ u, s.users userId = some u ∧ (sign cfg s userId e).2.users userId =
        some { u with quota := u.quota + cfg.quotaForSign }) ∧
    ((sign cfg s userId e).1.success = false → (sign cfg s userId e).2.users = s.users) := by
  unfold sign
  split_ifs
  · exact ⟨fun h => (nomatch h), fun _ => rfl⟩
  rcases doSign_cases cfg s userId e with ⟨_, _, hd⟩ | ⟨_, _, _, _, hd⟩ | ⟨u, he, _, hd⟩ <;>
    rw [hd]
  · exact ⟨fun h => (nomatch h), fun _ => rfl⟩
  · exact ⟨fun h => (nomatch h), fun _ => rfl⟩
  · exact ⟨fun _ => ⟨he.enabled, rfl, u, he.found.2, by simp [he.found.2]⟩, fun h => (nomatch h)⟩

end DailySign
