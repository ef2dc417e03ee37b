/-!
# Names that tasks carry

The states that the sources report, the functions at the bottom of a call chain, and the names by which the tasks of a test
harness, of signal delivery and of trace writing are known. The kernel cuts the name of a thread to 15 bytes, so a list that
has to match threads holds the cut spelling as well.
-/

namespace Stragglers

/-! ## States -/

namespace TaskState

/-- Parked on a channel or a queue; longer states of this kind begin with it. -/
def chanReceive : String := "chan receive"

/-- Inside a system call; longer states of this kind begin with it. -/
def syscall : String := "syscall"

/-- Executing. -/
def running : String := "running"

/-- Spawned and not polled yet. -/
def runnable : String := "runnable"

/-- Between two polls. -/
def idle : String := "idle"

/-- In a timed sleep. -/
def sleep : String := "sleep"

/-- Waiting until something can be read or written. -/
def ioWait : String := "IO wait"

/-- Blocked, and it is not known on what. -/
def waiting : String := "waiting"

/-- Stopped by a signal or a debugger. -/
def stopped : String := "stopped"

/-- Ended, and still listed. -/
def dead : String := "dead"

end TaskState

/-! ## Functions -/

namespace FunctionName

/-- The bottom of the chain of every task but the main thread. -/
def taskExit : String := "std::sys::pal::unix::thread::Thread::new::thread_start"

/-- The bottom of the chain of the main thread of a process. -/
def mainEntry : String := "std::rt::lang_start_internal"

/-- The functions of a test harness that wait on a channel while the tests run. -/
def testHarness : List String := [
  "test::test_main",
  "test::console::run_tests_console",
  "test::run_tests",
  "test::run_test",
  "test::run_test_in_process"
]

/-- The functions of signal delivery, the second being the name of its thread. -/
def signalDelivery : List String := ["ctrlc::platform::unix::block_ctrl_c", "ctrl-c"]

/-- A function in the chain of every task that the registration of a signal handler spawns. -/
def signalRegistration : String := "ctrlc::set_handler_inner::\x7b\x7bclosure\x7d\x7d"

/-- The functions of a trace writer, the second being the cut name of its thread. -/
def traceWriter : List String := ["tracing_appender::worker::Worker::work", "tracing-appende"]

end FunctionName

/-- The states of a main thread that idles while tests run: which one is seen depends on what the kernel shows. -/
def TaskState.idleMain : List String := [TaskState.chanReceive, TaskState.waiting]

end Stragglers
