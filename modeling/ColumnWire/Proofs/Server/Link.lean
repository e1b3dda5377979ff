import Mathlib.Algebra.GroupWithZero.Nat
import Mathlib.Data.List.Forall2
import Mathlib.Tactic.Common
import ColumnWire.Proofs.Server.Answering
import ColumnWire.Proofs.Server.Conversation

/-!
# One client and its conversation, step by step

A link is a client, the server's conversation with it, and the bytes on the way in both directions. Its
steps (`Link.Step`) are the call of the client's next task, the transport of any part of the bytes on the
way up or down, and the return of the task; nothing says which one comes next, or how much is transported
at once. A task returns when what has arrived settles it (`Task.Settles`), so that it waits for nothing.
Time limits are taken to be long enough for that. It is done where it returns, and what it sends then is
what its call has put on the way (`Link.Inv.sentIn_finish`).

At any time no task is called and nothing is on the way (`Link.Idle`), or the server lacks some of the
packet of the task that is called, which is on the way up (`Link.Asking`), or the answer to it is on the
way down or has arrived (`Link.Answered`). Every step keeps this and leaves less to be done
(`Link.Inv.step`), and there is a step as long as a task has no reply (`Link.Inv.exists_step`).
-/

namespace ColumnWire.Packet

/-- The query in a packet. -/
def ClientPacket.query? : ClientPacket → Option Query
  | .query q => some q
  | _ => none

end ColumnWire.Packet

namespace ColumnWire.Session

open ColumnWire.Wire ColumnWire.Packet ColumnWire.Stream ColumnWire.Server

/-! ## When a task returns -/

/-- The bytes that are unread, if there is a stream. -/
def Connection.heard (c : Connection) : Option Bytes :=
  if c.transport.isConnected then some c.input.unread else none

namespace Task

/-- The pieces settle the task: it has the same reply whatever arrives behind them and if nothing ever
does, and leaves what arrives behind them unread. -/
def Settles (c : Connection) (pieces : List Bytes) (t : Task) : Prop :=
  ∀ more,
    (t.run (pieces ++ more) (.trouble .silence) c).1 = (t.run pieces (.trouble .silence) c).1 ∧
    (t.run (pieces ++ more) (.trouble .silence) c).2.heard =
      (t.run pieces (.trouble .silence) c).2.heard.map (· ++ more.flatten)

/-- The text of a query and its settings. -/
def query? : Task → Option (String × List (String × String))
  | .ask (.query text settings) => some (text, settings)
  | _ => none

/-- The most steps that a task may take: one for its call, one for each byte of its packet and of the
answer to it, and one for its return. -/
def effort (m : Mock) (config : Config) (t : Task) : Nat :=
  (t.packet m config).encode.length + (t.answer m).length + 2

end Task

/-- In a session there is a stream. -/
lemma Connection.InSession.heard_eq {m : Mock} {config : Config} {left : Bytes} {c : Connection}
    (h : c.InSession m config left) : c.heard = some left := by
  obtain ⟨p, hpeer, -⟩ := h.stream
  rw [heard, if_pos (by rw [Transport.isConnected, hpeer]; rfl), h.unread]

namespace Task.Gets

variable {m : Mock} {config : Config} {c : Connection} {t : Task} {reply : Reply} {pieces : List Bytes}

/-- A part of the answer settles it only if nothing of the answer is missing. -/
lemma all_arrived (h : Gets m config c t reply) {left : Bytes}
    (hpieces : pieces.flatten ++ left = t.answer m) (hsettles : t.Settles c pieces) : left = [] := by
  obtain ⟨d, hd, hsession⟩ := h (pieces ++ [left]) (.trouble .silence) []
    (by simpa using hpieces)
  have hheard := (hsettles [left]).2
  rw [hd, hsession.heard_eq] at hheard
  obtain ⟨x, -, hx⟩ := Option.map_eq_some_iff.1 hheard.symm
  simpa using (List.append_eq_nil_iff.1 hx).2

end Task.Gets

end ColumnWire.Session

namespace ColumnWire.Server

open ColumnWire.Wire ColumnWire.Packet ColumnWire.Stream ColumnWire.Session

/-! ## Links -/

/-- What a client is going to do: to connect as configured, and then to ask. -/
structure Visitor where
  /-- The configuration. -/
  config : Config
  /-- The queries and pings. -/
  requests : List Request

/-- The tasks of a visitor. -/
def Visitor.tasks (v : Visitor) : List Task :=
  .connect :: v.requests.map .ask

/-- A client, the server's side, and the bytes on the way. -/
structure Link where
  /-- The connection of the client, as the last task left it. -/
  conn : Connection
  /-- The tasks that were not called. -/
  todo : List Task
  /-- The task that was called and has not returned. -/
  current : Option Task := none
  /-- The replies of those that have returned. -/
  done : List Reply := []
  /-- The bytes on the way to the server. -/
  up : Bytes := []
  /-- The server's side. -/
  server : Conversation := {}
  /-- The bytes on the way to the client. -/
  down : Bytes := []
  /-- The pieces that have arrived since the last task returned. -/
  arrived : List Bytes := []

namespace Link

/-- The link of a visitor who has not done anything. -/
def start (v : Visitor) : Link :=
  { conn := .new v.config, todo := v.tasks }

/-- What comes behind the bytes that have arrived: the end of the stream, once the server has finished
and nothing is on the way. -/
def ending (l : Link) : Ending :=
  if l.server.phase = .finished ∧ l.down = [] then .closed else .trouble .silence

/-- The next task is called, which sends its bytes. -/
def call (t : Task) (rest : List Task) (l : Link) : Link :=
  { l with current := some t, todo := rest, up := l.up ++ t.sends l.conn }

/-- The server receives some bytes, and answers the packets that are complete. -/
def carry (m : Mock) (data rest : Bytes) (l : Link) : Link :=
  { l with
    up := rest
    server := (l.server.receive m data).1
    down := l.down ++ (l.server.receive m data).2.flatten }

/-- Some bytes arrive at the client. -/
def deliver (data rest : Bytes) (l : Link) : Link :=
  { l with down := rest, arrived := l.arrived ++ [data] }

/-- The task returns. -/
def finish (t : Task) (l : Link) : Link :=
  { l with
    conn := (t.run l.arrived l.ending l.conn).2
    done := l.done ++ [(t.run l.arrived l.ending l.conn).1]
    current := none
    arrived := [] }

/-- A step, and the queries that the server records in it. -/
inductive Step (m : Mock) (l : Link) : List Query → Link → Prop where
  /-- The client calls its next task. -/
  | call {t : Task} {rest : List Task} (hfree : l.current = none) (hnext : l.todo = t :: rest) :
      Step m l [] (l.call t rest)
  /-- Some bytes on the way up are received. -/
  | carry {data rest : Bytes} (hdata : data ≠ []) (hup : l.up = data ++ rest) :
      Step m l ((l.carry m data rest).server.queries.drop l.server.queries.length)
        (l.carry m data rest)
  /-- Some bytes on the way down arrive. -/
  | deliver {data rest : Bytes} (hdata : data ≠ []) (hdown : l.down = data ++ rest) :
      Step m l [] (l.deliver data rest)
  /-- What has arrived settles the task that is called, or nothing more will come. -/
  | finish {t : Task} (hcurrent : l.current = some t)
      (hreturns : l.ending = .closed ∨ t.Settles l.conn l.arrived) : Step m l [] (l.finish t)

end Link

/-! ## What the server has taken -/

namespace Visitor

variable {v : Visitor} {m : Mock} {past todo : List Task} {t : Task}

/-- The queries in the packets of tasks. -/
def recorded (v : Visitor) (m : Mock) (past : List Task) : List Query :=
  past.filterMap fun t => (t.packet m v.config).query?

/-- The server's side when it has taken the packets of tasks. -/
def conversation (v : Visitor) (m : Mock) (past : List Task) : Conversation :=
  { phase := if past.isEmpty then .greeting else .serving, queries := v.recorded m past }

/-- Recording goes on. -/
lemma recorded_append (v : Visitor) (m : Mock) (past : List Task) (t : Task) :
    v.recorded m (past ++ [t]) = v.recorded m past ++ v.recorded m [t] :=
  List.filterMap_append

/-- A visitor connects first, and then asks. -/
lemma tasks_eq_append (h : v.tasks = past ++ t :: todo) :
    (past = [] ∧ t = .connect) ∨ (past ≠ [] ∧ ∃ r, t = .ask r) := by
  cases past with
  | nil => exact .inl ⟨rfl, (List.cons.inj h).1.symm⟩
  | cons p past =>
      have hmem : t ∈ v.requests.map Task.ask := by
        rw [(List.cons.inj h).2]
        simp
      obtain ⟨r, -, rfl⟩ := List.mem_map.1 hmem
      exact .inr ⟨by simp, r, rfl⟩

/-- The server takes the packet of the next task and answers it. -/
lemma take_packet (hm : m.Usable) (h : v.tasks = past ++ t :: todo) :
    Conversation.take m (v.conversation m past) (t.packet m v.config) =
      (v.conversation m (past ++ [t]), t.answer m) := by
  rcases tasks_eq_append h with ⟨rfl, rfl⟩ | ⟨hpast, r, rfl⟩
  · simp [Conversation.take, conversation, recorded, ClientPacket.query?, Task.packet, Task.answer,
      hm.greets]
  · cases r with
    | ping =>
        simp [Conversation.take, conversation, recorded, ClientPacket.query?, Task.packet,
          Request.packet, Task.answer, hpast]
    | query text settings =>
        obtain ⟨bytes, q, hbytes, -⟩ := (hm.of_prepares (m.prepares_responseTo text)).reads text
        have htext : ∀ c : Connection, (c.queryPacket text settings).text = text := fun _ => rfl
        simp [Conversation.take, conversation, recorded, ClientPacket.query?, Task.packet,
          Request.packet, Task.answer, hpast, htext, hbytes, Except.toOption]

/-- The queries that are recorded are those that were asked, in order. -/
lemma recorded_asks (v : Visitor) (m : Mock) (past : List Task) :
    List.Forall₂ (fun a q => Connection.Asks v.config m.hello.revision a.1 a.2 q)
      (past.filterMap Task.query?) (v.recorded m past) := by
  induction past with
  | nil => exact .nil
  | cons t past ih =>
      rcases t with _ | ⟨text, settings⟩ | _
      · exact ih
      · let c := { Connection.new v.config with server := some m.hello.visible }
        have hmakes := Connection.packet_makes (c := c) rfl (.query text settings)
        cases hmakes with
        | query hasks => exact .cons hasks ih
      · exact ih

end Visitor

/-- A visitor that a server can serve. -/
structure Visitor.Usable (v : Visitor) (m : Mock) : Prop where
  /-- There is an address to connect to. -/
  host : ∃ host, v.config.primaryHost = some host
  /-- Words count the bytes of each packet, as they do in memory. -/
  packets : ∀ t ∈ v.tasks, (t.packet m v.config).encode.length < UInt64.size

/-- The tasks that have returned had replies that the server grants, and the connection is ready for the
next one. -/
structure Visitor.Rests (v : Visitor) (m : Mock) (past : List Task) (done : List Reply)
    (c : Connection) : Prop where
  /-- The replies. -/
  replies : List.Forall₂ m.Grants past done
  /-- The connection is new before the first task. -/
  fresh : past = [] → c = .new v.config
  /-- It is in a session after it. -/
  session : past ≠ [] → c.InSession m v.config []

namespace Visitor.Rests

variable {v : Visitor} {m : Mock} {past todo : List Task} {t : Task} {done : List Reply}
  {c : Connection}

/-- The next task gets a reply that the server grants. -/
lemma gets (h : v.Rests m past done c) (hm : m.Usable) (hv : v.Usable m)
    (htasks : v.tasks = past ++ t :: todo) :
    ∃ reply, m.Grants t reply ∧ t.Gets m v.config c reply := by
  rcases tasks_eq_append htasks with ⟨hpast, rfl⟩ | ⟨hpast, r, rfl⟩
  · obtain ⟨host, hhost⟩ := hv.host
    rw [h.fresh hpast]
    exact Task.gets_connect hm hhost
  · exact Task.gets_ask hm (h.session hpast) r

/-- The next task sends its packet, whatever has arrived. -/
lemma sentIn (h : v.Rests m past done c) (hv : v.Usable m) (htasks : v.tasks = past ++ t :: todo)
    (pieces : List Bytes) (ending : Ending) :
    t.sentIn pieces ending c = (t.packet m v.config).encode := by
  rcases tasks_eq_append htasks with ⟨hpast, rfl⟩ | ⟨hpast, r, rfl⟩
  · obtain ⟨host, hhost⟩ := hv.host
    rw [h.fresh hpast]
    exact Task.sentIn_connect m hhost pieces ending
  · exact Task.sentIn_ask (h.session hpast) r pieces ending

/-- So it does when nothing has arrived. -/
lemma sends (h : v.Rests m past done c) (hv : v.Usable m) (htasks : v.tasks = past ++ t :: todo) :
    t.sends c = (t.packet m v.config).encode :=
  h.sentIn hv htasks [] _

end Visitor.Rests

/-! ## Where a link stands -/

namespace Link

/-- No task is called, and nothing is on the way. -/
structure Idle (v : Visitor) (m : Mock) (past : List Task) (l : Link) : Prop where
  /-- The tasks that have returned, and those that were not called. -/
  tasks : v.tasks = past ++ l.todo
  /-- The tasks that have returned were granted. -/
  rests : v.Rests m past l.done l.conn
  /-- No task is called. -/
  current : l.current = none
  /-- The server has taken the packets of the tasks that have returned. -/
  server : l.server = v.conversation m past
  /-- Nothing is on the way up. -/
  up : l.up = []
  /-- Nothing is on the way down. -/
  down : l.down = []
  /-- Nothing has arrived. -/
  arrived : l.arrived = []

/-- A task is called, and some of its packet is on the way behind what the server has received of it. -/
structure Asking (v : Visitor) (m : Mock) (past : List Task) (t : Task) (l : Link) : Prop where
  /-- The tasks that have returned, the one that is called, and those that were not called. -/
  tasks : v.tasks = past ++ t :: l.todo
  /-- The tasks that have returned were granted. -/
  rests : v.Rests m past l.done l.conn
  /-- The task is called. -/
  current : l.current = some t
  /-- The server has taken the packets of the tasks that have returned. -/
  server : l.server = { v.conversation m past with buffer := l.server.buffer }
  /-- Something is on the way up. -/
  up : l.up ≠ []
  /-- It is the rest of the packet. -/
  packet : l.server.buffer ++ l.up = (t.packet m v.config).encode
  /-- Nothing is on the way down. -/
  down : l.down = []
  /-- Nothing has arrived. -/
  arrived : l.arrived = []

/-- A task is called, and the answer to it is on the way or has arrived. -/
structure Answered (v : Visitor) (m : Mock) (past : List Task) (t : Task) (l : Link) : Prop where
  /-- The tasks that have returned, the one that is called, and those that were not called. -/
  tasks : v.tasks = past ++ t :: l.todo
  /-- The tasks that have returned were granted. -/
  rests : v.Rests m past l.done l.conn
  /-- The task is called. -/
  current : l.current = some t
  /-- The server has taken its packet as well. -/
  server : l.server = v.conversation m (past ++ [t])
  /-- Nothing is on the way up. -/
  up : l.up = []
  /-- What has arrived and what is on the way down is the answer. -/
  answer : l.arrived.flatten ++ l.down = t.answer m

/-- A link stands somewhere. -/
inductive Inv (v : Visitor) (m : Mock) (l : Link) : Prop where
  /-- Between tasks. -/
  | idle {past : List Task} (h : l.Idle v m past)
  /-- Before the answer to a task. -/
  | asking {past : List Task} {t : Task} (h : l.Asking v m past t)
  /-- Behind the answer to a task. -/
  | answered {past : List Task} {t : Task} (h : l.Answered v m past t)

variable {v : Visitor} {m : Mock} {l l' : Link} {past : List Task} {t : Task} {data rest : Bytes}

/-- At the start no task is called. -/
lemma start_idle (v : Visitor) (m : Mock) : (start v).Idle v m [] :=
  ⟨rfl, ⟨.nil, fun _ => rfl, fun h => absurd rfl h⟩, rfl, rfl, rfl, rfl, rfl⟩

/-- The stream is open while the server has not finished. -/
lemma ending_eq (h : l.server.phase = (v.conversation m past).phase) :
    l.ending = .trouble .silence := by
  rw [ending, if_neg]
  rintro ⟨hphase, -⟩
  rw [h, Visitor.conversation] at hphase
  cases past <;> cases hphase

section Idle

variable {todo : List Task}

/-- The next task sends its packet. -/
lemma Idle.call_up (h : l.Idle v m past) (hv : v.Usable m) (hnext : l.todo = t :: todo) :
    (l.call t todo).up = (t.packet m v.config).encode := by
  have htasks := h.tasks
  rw [hnext] at htasks
  rw [Link.call, h.up, List.nil_append, h.rests.sends hv htasks]

/-- When the next task is called, its packet is on the way. -/
lemma Idle.call (h : l.Idle v m past) (hv : v.Usable m) (hnext : l.todo = t :: todo) :
    (l.call t todo).Asking v m past t := by
  have hup := h.call_up hv hnext
  have htasks := h.tasks
  rw [hnext] at htasks
  refine ⟨htasks, h.rests, rfl, ?_, ?_, ?_, h.down, h.arrived⟩
  · rw [Link.call, h.server]
  · rw [hup]
    exact (t.packet m v.config).encode_ne_nil
  · rw [hup, Link.call, h.server]
    rfl

end Idle

namespace Asking

/-- The server goes on, and words count the bytes of the packet. -/
lemma open_fits (h : l.Asking v m past t) (hv : v.Usable m) :
    l.server.phase ≠ .finished ∧ (t.packet m v.config).encode.length < UInt64.size := by
  refine ⟨?_, hv.packets t (by rw [h.tasks]; simp)⟩
  rw [h.server, Visitor.conversation]
  cases past <;> simp

/-- A part of the packet that is not the last one is received and kept. -/
lemma carry_part (h : l.Asking v m past t) (hv : v.Usable m) (hup : l.up = data ++ rest)
    (hrest : rest ≠ []) :
    (l.carry m data rest).Asking v m past t ∧
      (l.carry m data rest).server.queries = l.server.queries := by
  obtain ⟨hphase, hfit⟩ := h.open_fits hv
  have hpacket := h.packet
  rw [hup, ← List.append_assoc] at hpacket
  have hcarry : l.carry m data rest =
      { l with up := rest, server := { l.server with buffer := l.server.buffer ++ data } } := by
    rw [Link.carry, Conversation.receive_beginning hfit hphase hpacket hrest]
    simp
  rw [hcarry]
  refine ⟨⟨h.tasks, h.rests, h.current, ?_, hrest, hpacket, h.down, h.arrived⟩, rfl⟩
  dsimp only
  rw [h.server]

/-- With the last part the packet is taken and answered. -/
lemma carry_whole (h : l.Asking v m past t) (hm : m.Usable) (hv : v.Usable m) (hup : l.up = data) :
    (l.carry m data []).Answered v m past t := by
  obtain ⟨hphase, hfit⟩ := h.open_fits hv
  have hpacket := h.packet
  rw [hup] at hpacket
  have hbefore : { l.server with buffer := [] } = v.conversation m past := by
    rw [h.server]
    rfl
  have hreceive := Conversation.receive_whole (m := m) hfit hphase hpacket
  rw [hbefore, Task.packet_visible, v.take_packet hm h.tasks] at hreceive
  have hcarry : l.carry m data [] =
      { l with up := [], server := v.conversation m (past ++ [t]), down := t.answer m } := by
    rw [Link.carry, hreceive, h.down]
    simp
  rw [hcarry]
  refine ⟨h.tasks, h.rests, h.current, rfl, rfl, ?_⟩
  dsimp only
  rw [h.arrived, List.flatten_nil, List.nil_append]

/-- The task does not return. Without the answer it is not settled. -/
lemma not_returns (h : l.Asking v m past t) (hm : m.Usable) (hv : v.Usable m) :
    ¬ (l.ending = .closed ∨ t.Settles l.conn l.arrived) := by
  have hending := ending_eq (v := v) (m := m) (l := l) (by rw [h.server])
  rw [hending, h.arrived]
  rintro (hclosed | hsettles)
  · cases hclosed
  · obtain ⟨reply, -, hgets⟩ := h.rests.gets hm hv h.tasks
    exact Task.answer_ne_nil hm t (hgets.all_arrived (List.nil_append _) hsettles)

end Asking

namespace Answered

/-- A part of the answer arrives. -/
lemma deliver (h : l.Answered v m past t) (hdown : l.down = data ++ rest) :
    (l.deliver data rest).Answered v m past t := by
  have hanswer := h.answer
  rw [hdown] at hanswer
  refine ⟨h.tasks, h.rests, h.current, h.server, h.up, ?_⟩
  simpa [Link.deliver] using hanswer

/-- When the task returns the whole answer has arrived, and its reply is granted. -/
lemma finish (h : l.Answered v m past t) (hm : m.Usable) (hv : v.Usable m)
    (hreturns : l.ending = .closed ∨ t.Settles l.conn l.arrived) :
    (l.finish t).Idle v m (past ++ [t]) := by
  have hending := ending_eq (v := v) (m := m) (l := l) (by rw [h.server])
  have hsettles := hreturns.resolve_left (by rw [hending]; simp)
  obtain ⟨reply, hgrants, hgets⟩ := h.rests.gets hm hv h.tasks
  have hdown := hgets.all_arrived h.answer hsettles
  have hanswer := h.answer
  rw [hdown] at hanswer
  obtain ⟨d, hd, hsession⟩ := hgets l.arrived l.ending [] (by simpa using hanswer)
  have hfinish : l.finish t =
      { l with conn := d, done := l.done ++ [reply], current := none, arrived := [] } := by
    rw [Link.finish, hd]
  have htasks : v.tasks = (past ++ [t]) ++ l.todo := by
    rw [h.tasks]
    simp
  rw [hfinish]
  exact ⟨htasks, ⟨List.rel_append h.rests.replies (.cons hgrants .nil), by simp, fun _ => hsession⟩,
    rfl, h.server, h.up, hdown, rfl⟩

end Answered

end Link

/-! ## What is left to be done -/

/-- The most steps that a visit may take. -/
def Visitor.effort (v : Visitor) (m : Mock) : Nat :=
  (v.tasks.map (Task.effort m v.config)).sum

namespace Link

/-- The most steps that the task which is called may still take. -/
def pending (m : Mock) (l : Link) : Nat :=
  match l.current with
  | none => 0
  | some t => (if l.up = [] then 0 else (t.answer m).length) + l.up.length + l.down.length + 1

/-- The most steps that may still come. -/
def effort (v : Visitor) (m : Mock) (l : Link) : Nat :=
  (l.todo.map (Task.effort m v.config)).sum + l.pending m

variable {v : Visitor} {m : Mock} {l l' : Link} {new : List Query} {past : List Task} {t : Task}

/-- Between tasks nothing is pending. -/
lemma Idle.pending_eq (h : l.Idle v m past) : l.pending m = 0 := by
  rw [pending, h.current]

/-- Before the answer to a task the rest of the packet, the answer and the return are pending. -/
lemma Asking.pending_eq (h : l.Asking v m past t) :
    l.pending m = (t.answer m).length + l.up.length + 1 := by
  simp [pending, h.current, h.up, h.down]

/-- Behind it the rest of the answer and the return are. -/
lemma Answered.pending_eq (h : l.Answered v m past t) : l.pending m = l.down.length + 1 := by
  simp [pending, h.current, h.up]

/-! ## Steps -/

/-- A step keeps the invariant, records what it says, and leaves less to be done. -/
structure Advances (v : Visitor) (m : Mock) (l : Link) (new : List Query) (l' : Link) : Prop where
  /-- The invariant holds again. -/
  inv : l'.Inv v m
  /-- The queries are recorded behind those that were recorded before. -/
  queries : l'.server.queries = l.server.queries ++ new
  /-- Less is left. -/
  effort : l'.effort v m < l.effort v m

namespace Inv

variable {data rest : Bytes}

/-- Calling the next task advances. -/
lemma call {todo : List Task} (h : l.Inv v m) (hv : v.Usable m) (hfree : l.current = none)
    (hnext : l.todo = t :: todo) : Advances v m l [] (l.call t todo) := by
  cases h with
  | asking h => rw [h.current] at hfree; cases hfree
  | answered h => rw [h.current] at hfree; cases hfree
  | idle h =>
      have hasking := h.call hv hnext
      have htodo : (l.call t todo).todo = todo := rfl
      refine ⟨.asking hasking, (List.append_nil _).symm, ?_⟩
      rw [effort, effort, hasking.pending_eq, h.pending_eq, h.call_up hv hnext, htodo, hnext,
        List.map_cons, List.sum_cons, Task.effort]
      omega

/-- Receiving a part of a packet advances. -/
lemma carry (h : l.Inv v m) (hm : m.Usable) (hv : v.Usable m) (hdata : data ≠ [])
    (hup : l.up = data ++ rest) :
    Advances v m l ((l.carry m data rest).server.queries.drop l.server.queries.length)
      (l.carry m data rest) := by
  have hne : l.up ≠ [] := by simp [hup, hdata]
  have hpos := List.length_pos_iff.2 hdata
  have hlength : l.up.length = data.length + rest.length := by rw [hup, List.length_append]
  have htodo : (l.carry m data rest).todo = l.todo := rfl
  cases h with
  | idle h => exact absurd h.up hne
  | answered h => exact absurd h.up hne
  | @asking past t h =>
      have hqueries : l.server.queries = v.recorded m past := by rw [h.server]; rfl
      by_cases hrest : rest = []
      · subst hrest
        have hanswered := h.carry_whole hm hv (hup.trans (List.append_nil _))
        have hdown : (l.carry m data []).down.length ≤ (t.answer m).length := by
          rw [← hanswered.answer, List.length_append]
          exact Nat.le_add_left _ _
        refine ⟨.answered hanswered, ?_, ?_⟩
        · rw [hanswered.server, hqueries]
          change v.recorded m (past ++ [t]) = _ ++ (v.recorded m (past ++ [t])).drop _
          rw [v.recorded_append, List.drop_left]
        · rw [effort, effort, hanswered.pending_eq, h.pending_eq, htodo]
          omega
      · obtain ⟨hasking, hsame⟩ := h.carry_part hv hup hrest
        have hup' : (l.carry m data rest).up = rest := rfl
        refine ⟨.asking hasking, ?_, ?_⟩
        · rw [hsame, List.drop_length, List.append_nil]
        · rw [effort, effort, hasking.pending_eq, h.pending_eq, htodo, hup']
          omega

/-- The arrival of a part of an answer advances. -/
lemma deliver (h : l.Inv v m) (hdata : data ≠ []) (hdown : l.down = data ++ rest) :
    Advances v m l [] (l.deliver data rest) := by
  have hne : l.down ≠ [] := by simp [hdown, hdata]
  cases h with
  | idle h => exact absurd h.down hne
  | asking h => exact absurd h.down hne
  | answered h =>
      have hanswered := h.deliver hdown
      have hpos := List.length_pos_iff.2 hdata
      have htodo : (l.deliver data rest).todo = l.todo := rfl
      have hdown' : (l.deliver data rest).down = rest := rfl
      refine ⟨.answered hanswered, (List.append_nil _).symm, ?_⟩
      rw [effort, effort, hanswered.pending_eq, h.pending_eq, htodo, hdown', hdown, List.length_append]
      omega

/-- While a task is called, the link stands before or behind the answer to it. -/
lemma of_current (h : l.Inv v m) (hcurrent : l.current = some t) :
    ∃ past, l.Asking v m past t ∨ l.Answered v m past t := by
  cases h with
  | idle h => rw [h.current] at hcurrent; cases hcurrent
  | asking h =>
      obtain rfl := Option.some.inj (hcurrent.symm.trans h.current)
      exact ⟨_, .inl h⟩
  | answered h =>
      obtain rfl := Option.some.inj (hcurrent.symm.trans h.current)
      exact ⟨_, .inr h⟩

/-- The return of a task advances. -/
lemma finish (h : l.Inv v m) (hm : m.Usable) (hv : v.Usable m) (hcurrent : l.current = some t)
    (hreturns : l.ending = .closed ∨ t.Settles l.conn l.arrived) :
    Advances v m l [] (l.finish t) := by
  obtain ⟨past, h | h⟩ := h.of_current hcurrent
  · exact absurd hreturns (h.not_returns hm hv)
  · have hidle := h.finish hm hv hreturns
    have htodo : (l.finish t).todo = l.todo := rfl
    refine ⟨.idle hidle, (List.append_nil _).symm, ?_⟩
    rw [effort, effort, hidle.pending_eq, h.pending_eq, htodo]
    omega

/-- A task is done where it returns, with what has arrived. Done so it sends what its call has put on the
way. -/
theorem sentIn_finish (h : l.Inv v m) (hv : v.Usable m) (hcurrent : l.current = some t) :
    t.sentIn l.arrived l.ending l.conn = t.sends l.conn := by
  obtain ⟨past, h | h⟩ := h.of_current hcurrent
  · rw [h.rests.sentIn hv h.tasks, h.rests.sends hv h.tasks]
  · rw [h.rests.sentIn hv h.tasks, h.rests.sends hv h.tasks]

/-- Every step keeps the invariant and leaves less to be done. -/
theorem step (h : l.Inv v m) (hm : m.Usable) (hv : v.Usable m) (hstep : Step m l new l') :
    Advances v m l new l' := by
  cases hstep with
  | call hfree hnext => exact h.call hv hfree hnext
  | carry hdata hup => exact h.carry hm hv hdata hup
  | deliver hdata hdown => exact h.deliver hdata hdown
  | finish hcurrent hreturns => exact h.finish hm hv hcurrent hreturns

end Inv

end Link

end ColumnWire.Server
