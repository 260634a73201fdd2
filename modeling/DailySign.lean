import DailySign.Clock
import DailySign.Store
import DailySign.Sign
import DailySign.Calendar
import DailySign.Info
import DailySign.Ledger
import DailySign.Window
import DailySign.Concurrent
import DailySign.Controller
import DailySign.Page
