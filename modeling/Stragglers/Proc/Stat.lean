import Stragglers.Failure
import Stragglers.Task.Names
import Stragglers.Text.Blank
import Stragglers.Text.Search

/-!
# Status lines

The status line of a thread is `number (name) letter …`, where the name may hold anything, parentheses and blanks included. So
the letter is the first character that is not blank behind the last closing parenthesis. With the kernel function that the
thread waits in, it gives the state of the thread.
-/

namespace Stragglers.Stat

/-- What follows the last closing parenthesis of a text; `found` if the text has none. -/
def afterName (found : Option (List Char)) : List Char → Option (List Char)
  | [] => found
  | c :: cs => afterName (if c = ')' then some cs else found) cs

/-- The state letter of a status line. -/
def stateLetter (line : String) : Except ThreadFault Char :=
  match afterName none line.toList with
  | none => .error .noName
  | some cs =>
    match Text.trimStart cs with
    | [] => .error .noState
    | c :: _ => .ok c

/-- Parts of the names of the kernel functions that wait until something can be read or written. -/
def ioWaitChannels : List String :=
  ["poll", "select", "sk_wait", "accept", "pipe_", "unix_stream", "wait_woken", "tcp_"]

/-- The state of a sleeping thread, by the kernel function that it waits in. -/
def sleepState (channel : Option String) : String :=
  match channel with
  | none => TaskState.waiting
  | some w =>
    let holds (part : String) : Bool := Text.occursIn part.toList w.toList
    if holds "futex" then TaskState.chanReceive
    else if holds "nanosleep" then TaskState.sleep
    else if ioWaitChannels.any holds then TaskState.ioWait
    else TaskState.waiting

/-- The state of a thread, by its state letter and the kernel function that it waits in. -/
def threadState (letter : Char) (channel : Option String) : String :=
  match letter with
  | 'R' => TaskState.running
  | 'S' | 'D' => sleepState channel
  | 'T' | 't' => TaskState.stopped
  | 'Z' | 'X' | 'x' => TaskState.dead
  | 'I' => TaskState.idle
  | _ => TaskState.waiting

end Stragglers.Stat
