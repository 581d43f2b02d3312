import StartPage.Greeting
import StartPage.Text.Digits

/-! What a page reports about itself while it works. Each event has a level
and a fixed message; its other contents are the fields of its constructor. -/
namespace StartPage

/-- How much an event matters to somebody who reads the log. -/
inductive LogLevel where
  | trace
  | debug
  | info
  | warn
  deriving DecidableEq, Repr

def LogLevel.name : LogLevel → String
  | .trace => "TRACE"
  | .debug => "DEBUG"
  | .info => "INFO"
  | .warn => "WARN"

inductive LogEvent where
  /-- A page has been made from valid settings. -/
  | configured (displayName searchBase : String) (tickMillis : UInt32)
  /-- The clock text and the title have been computed for an instant. -/
  | tick (clock : String) (greeting : Greeting)
  /-- The page is about to leave for a search result. -/
  | redirect (url : String)
  /-- A page has been wired to a document. -/
  | running (tickMillis : UInt32)
  /-- A wired page has been taken down. -/
  | stopped
  /-- The browser refused to leave the page. -/
  | redirectFailed (error : String)
  /-- The browser refused to detach the key listener. -/
  | detachFailed (error : String)
  deriving DecidableEq, Repr

namespace LogEvent

def level : LogEvent → LogLevel
  | .configured .. => .info
  | .tick .. => .trace
  | .redirect .. => .debug
  | .running .. => .info
  | .stopped => .info
  | .redirectFailed .. => .warn
  | .detachFailed .. => .warn

def message : LogEvent → String
  | .configured .. => "start page configured"
  | .tick .. => "clock tick"
  | .redirect .. => "search redirect"
  | .running .. => "start page running"
  | .stopped => "start page stopped"
  | .redirectFailed .. => "search redirect failed"
  | .detachFailed .. => "failed to remove keydown listener"

end LogEvent

end StartPage
