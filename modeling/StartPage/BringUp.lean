/-! Two resources that are acquired together or not at all: a timer is
started, then a listener is attached, and a listener that cannot be attached
takes the timer down again. -/
namespace StartPage

/-- Start the timer, then attach the listener. If attaching fails, the timer is
stopped and the failure is passed on; if starting fails, nothing else is tried. -/
def startTimerThenListen {m : Type → Type} [Monad m] {τ ε : Type}
    (start : ExceptT ε m τ) (listen : ExceptT ε m Unit) (stop : τ → m Unit) :
    ExceptT ε m τ := do
  let timer ← start
  tryCatch listen fun e => do
    liftM (stop timer)
    throw e
  return timer

end StartPage
