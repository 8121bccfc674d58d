import PodTail.Service.Handler
import PodTail.Web.Connection
import PodTail.Web.Frame

/-!
# The service at work

`World` is a service with its cluster, its clients and a clock. The client's end of a socket is a
`Line`; what a session sends is put into the line's `inbox` and waits there until the client takes
it.

* `give` hands an input to the service and performs the acts of its step (`act`).
* `converse` has the cluster answer the questions of a session. An answer that takes time is kept in
  the line (`expect`) and delivered by `arrive`.
* `settle` lets every line go on, by `move`, until it has to wait. Writes take no time here; only
  the answers of a cluster, logs and rests do.
* `proceed` moves the clock to the next instant at which a line wakes.
* `request`, `connect`, `send`, `receive`, `drop`, `sleep` and `shutdown` are what can be done from
  outside. A world that is settled is settled again behind each of them.
-/

set_option autoImplicit false

namespace PodTail

namespace World

/-- What comes to a client. -/
inductive Delivery where
  | text (frame : String)
  | close
  | ended
  deriving DecidableEq, Repr

/-- One socket: the client's end of it, and what its session waits for. -/
structure Line where
  /-- What the client calls it, as long as the client holds it. -/
  name : Option String
  /-- The number of its session. -/
  session : Nat
  /-- What is left of its log. -/
  feed : Feed
  /-- The end of the wait it is in. -/
  wakes : Option Nat
  /-- The answer of the cluster that is on its way: what is noted when it is there, and what it
  is. -/
  expected : Option (List Event × Session.Input)
  /-- What the client has done while nobody looked. -/
  unread : List Session.Signal
  inbox : List Delivery
  /-- The client has closed, has seen the close, or has nobody at the other end. -/
  closing : Bool

end World

/-- A service at work. -/
structure World (σ : Type) where
  now : Nat
  present : Instant
  cluster : Cluster σ
  state : σ
  service : Service
  lines : List World.Line
  /-- What has been noted since somebody last looked. -/
  events : List Event
  /-- Two sockets have been held at the same time. -/
  crowded : Bool

namespace World

variable {σ : Type}

/-- A service before its first client. -/
def start (settings : Settings) (present : Instant) (c : Cluster σ) (s : σ) : World σ :=
  ⟨0, present, c, s, Service.start settings, [], [], false⟩

/-! ## Doing what sessions do -/

/-- The line of a session is changed. -/
def onLine (w : World σ) (i : Nat) (f : Line → Line) : World σ :=
  { w with lines := w.lines.map fun l => if l.session = i then f l else l }

/-- Does one thing that a session does. -/
def act (w : World σ) (a : Nat × Session.Act) : World σ :=
  let deliver := fun (ds : List Delivery) =>
    w.onLine a.1 fun l => { l with inbox := l.inbox ++ ds }
  match a.2 with
  | .send frame => deliver [.text frame]
  | .close => deliver [.close, .ended]
  | .release source => { w with state := w.cluster.release w.state source }
  | .note e => { w with events := w.events ++ [e] }
  | .ask _ => w
  | .opened => w

/-- Gives the service an input. -/
def give (w : World σ) (i : Service.Input) : World σ :=
  let (service, acts) := w.service.step i
  acts.foldl act { w with service }

/-! ## Looking up -/

/-- A session breaks off: its end of the socket is gone, and nothing more comes to it. -/
def breakOff (w : World σ) (i : Nat) : World σ :=
  w.onLine i fun l => { l with inbox := l.inbox ++ [.ended], closing := true }

/-- Whether what the cluster says is a failure that the session breaks off with. -/
def isFatal : Session.Input → Bool
  | .listed (.error cause) => cause.fatal
  | .got (.error cause) => cause.fatal
  | .opened (.error cause) => cause.fatal
  | _ => false

/-- Gives a session what the cluster says, and goes on with it. -/
def resume (i : Nat) (input : Session.Input) (further : World σ → World σ) (w : World σ) : World σ :=
  if isFatal input then w.breakOff i else further (give w (.session i input))

/-- An answer that takes `ms` goes on its way to a session. -/
def expect (w : World σ) (i : Nat) (ms : Option Nat) (events : List Event) (input : Session.Input) :
    World σ :=
  w.onLine i fun l => { l with wakes := ms.map (w.now + ·), expected := some (events, input) }

/-- Has the cluster answer the questions of a session, of which there are at most `n`, until an
    answer takes time. -/
def converse (i : Nat) : Nat → World σ → World σ
  | 0, w => w
  | n + 1, w =>
    let stage : Option Session.Stage := w.service.sessions[i]?.map (·.stage)
    match stage with
    | some (.looking (.list ns selector _)) =>
      let delay := w.cluster.delay w.state (.list ns selector)
      let (answer, events, state) := w.cluster.list w.state ns selector
      if delay = some 0 then
        resume i (.listed answer) (converse i n) { w with state, events := w.events ++ events }
      else expect { w with state } i delay events (.listed answer)
    | some (.looking (.get ns pod _)) =>
      let delay := w.cluster.delay w.state (.get ns pod)
      let (answer, state) := w.cluster.get w.state ns pod
      if delay = some 0 then resume i (.got answer) (converse i n) { w with state }
      else expect { w with state } i delay [] (.got answer)
    | some (.looking (.log ns pod container tail _)) =>
      let (answer, state) := w.cluster.log w.state ns pod container tail
      let feed := match answer with | .ok source => source.feed | .error _ => []
      resume i (.opened answer) (converse i n) (onLine { w with state } i fun l => { l with feed })
    | _ => w

/-- The most questions a look-up asks. -/
def questions : Nat := 3

/-! ## Going on -/

/-- What a line does next: it goes on with an input or without one, or waits. -/
inductive Move where
  | go (l : Line) (input : Option Session.Input)
  | wait (l : Line)

/-- Waits for `ms`, and then goes on. -/
def pause (now ms : Nat) (l : Line) (after : Line) (input : Option Session.Input) : Move :=
  match l.wakes with
  | none => if ms = 0 then .go after input else .wait { l with wakes := some (now + ms) }
  | some t => if t ≤ now then .go { after with wakes := none } input else .wait l

/-- What a line with its session does next. -/
def move (w : World σ) (s : Session) (l : Line) : Move :=
  match s.stage with
  | .looking _ => .wait l
  | .apologising => .go l (some .socketDone)
  | .closing _ => .go l (some .socketDone)
  | .parting _ => .go l (some .watcherCalled)
  | .over => .wait l
  | .relaying r _ =>
    match r.stage with
    | .writing _ => .go l (some (.relay .written))
    | .ended _ => .wait l
    | stage =>
      if s.cancelled || w.service.shutdown then
        .go { l with wakes := none } (some (.relay .cancelled))
      else if stage = .resting then
        pause w.now w.service.settings.throttleMs l l (some (.relay .rested))
      else
        match l.feed with
        | [] => .go l (some (.relay (.item .finish)))
        | .line text :: feed => .go { l with feed } (some (.relay (.item (.line text))))
        | .failure reason :: feed => .go { l with feed } (some (.relay (.item (.failure reason))))
        | .wait ms :: feed => pause w.now ms l { l with feed } none
        | .silence :: _ => .wait l
        | .cancel :: feed => .go { l with feed } none

/-- Lets a line go on until it waits, with at most `n` moves. -/
def settleLine : Nat → Nat → World σ → World σ
  | 0, _, w => w
  | n + 1, k, w =>
    match w.lines[k]? with
    | none => w
    | some l =>
      match w.service.sessions[l.session]? with
      | none => w
      | some s =>
        match move w s l with
        | .wait l => { w with lines := w.lines.set k l }
        | .go l input =>
          let w := { w with lines := w.lines.set k l }
          match input with
          | none => settleLine n k w
          | some i => settleLine n k (give w (.session l.session i))

/-- More moves than a line can make: a step of its log takes at most four. -/
def patience (w : World σ) (k : Nat) : Nat :=
  4 * ((w.lines[k]?.map (·.feed.length)).getD 0) + 12

/-- Lets a line go on until it waits. -/
def goOn (w : World σ) (k : Nat) : World σ :=
  settleLine (patience w k) k w

/-- Gives a session the answer it expects, if that is there by now. It is noticed only afterwards
what the client has done meanwhile. -/
def arrive (w : World σ) (k : Nat) : World σ :=
  match w.lines[k]? with
  | some ⟨name, i, feed, some t, some (events, input), unread, inbox, closing⟩ =>
    if t ≤ w.now then
      let lines := w.lines.set k ⟨name, i, feed, none, none, unread, inbox, closing⟩
      let w := { w with lines, events := w.events ++ events }
      let w := resume i input (converse i questions) w
      match w.lines[k]? with
      | some ⟨_, _, _, _, none, unread, _, _⟩ =>
        let w := goOn (w.onLine i fun l => { l with unread := [] }) k
        unread.foldl (fun w s => give w (.session i (.client s))) w
      | _ => w
    else w
  | _ => w

/-- Lets all lines go on until they wait. -/
def settle (w : World σ) : World σ :=
  let all := List.range w.lines.length
  all.foldl goOn (all.foldl arrive w)

/-- The next instant at which a line wakes. -/
def nextWake (w : World σ) : Option Nat :=
  ((w.lines.filterMap (·.wakes)).filter (w.now < ·)).foldl
    (fun best t => some (match best with | some b => min b t | none => t)) none

/-- Lets time go on to `limit`, or to the first instant at which `done` holds. -/
def proceed (done : World σ → Bool) (limit : Nat) : Nat → World σ → World σ
  | 0, w => { w with now := limit }
  | n + 1, w =>
    if done w then w
    else
      match nextWake w with
      | some t => if t ≤ limit then proceed done limit n (settle { w with now := t })
                  else { w with now := limit }
      | none => { w with now := limit }

/-- Lets time go on to `limit`, or to the first instant at which `done` holds. Time moves by a
millisecond at least. -/
def waitUntil (done : World σ → Bool) (limit : Nat) (w : World σ) : World σ :=
  proceed done limit (limit - w.now + 1) w

/-! ## What clients do -/

/-- The number of the line a client holds under a name. -/
def held? (w : World σ) (name : String) : Option Nat :=
  w.lines.findIdx? (·.name = some name)

/-- A client signals on a line. Nobody looks as long as an answer is expected. -/
def signal (w : World σ) (k : Nat) (s : Session.Signal) : World σ :=
  match w.lines[k]? with
  | some l =>
    if l.expected.isSome then
      { w with lines := w.lines.modify k fun l => { l with unread := l.unread ++ [s] } }
    else settle (give w (.session l.session (.client s)))
  | none => w

/-- What the reader of a socket says whose client is gone without a word. -/
def abandoned : Session.Signal :=
  .failed "WebSocket protocol error: Connection reset without closing handshake"

/-- A client drops a line. -/
def drop (w : World σ) (k : Nat) : World σ :=
  let lines := w.lines.modify k fun l => { l with name := none }
  signal { w with lines } k abandoned

/-- Time goes on. -/
def sleep (w : World σ) (ms : Nat) : World σ :=
  waitUntil (fun _ => false) (w.now + ms) w

/-- A request is answered, unless answering it breaks off. If it is accepted, the client holds the
socket under a name, and drops the one it held under that name before. -/
def request (w : World σ) (name : Option String) (r : Request) : Option Response × World σ :=
  let question := (Route.of r).toOption.bind (Handler.question? w.service.settings)
  let delay := (question.bind (w.cluster.delay w.state)).getD 0
  let (verdict, events, state) :=
    Handler.handle w.service.settings w.present w.cluster w.state r
  let w := { w with state }
  let w := if delay = 0 then w else w.sleep delay
  let w := { w with events := w.events ++ events }
  match verdict with
  | .answer response => (some response, settle w)
  | .breakOff => (none, settle w)
  | .accept response t =>
    let before := name.bind w.held?
    let i := w.service.sessions.length
    let w := { w with lines := w.lines ++ [⟨name, i, [], none, none, [], [], false⟩] }
    let w := converse i questions (give w (.accept t))
    let w := match before with | some k => w.drop k | none => w
    let crowded := w.crowded || 2 ≤ (w.lines.filter (·.name.isSome)).length
    (some response, settle { w with crowded })

/-- A request comes over a connection. The client names the socket that it may become. -/
def connect (w : World σ) (name : String) (r : Request) : Option Response × World σ :=
  let r := { r with headers := Connection.arriving r.headers, upgradable := true }
  match Connection.fault? r with
  | some status => (some (Connection.refusal status), w)
  | none =>
    let (response, w) := w.request (some name) r
    (response.map (Connection.leaving r.headers), w)

/-- The service is told to stop. -/
def shutdown (w : World σ) : World σ :=
  settle (give w .shutdown)

/-- Whether the session at the other end of a line is over, and its end of the socket gone. -/
def gone (w : World σ) (l : Line) : Bool :=
  match w.service.sessions[l.session]? with
  | none => true
  | some s => match s.stage with | .over => true | _ => false

/-- A client sends a frame with a payload of so many bytes. It cannot once it has closed or seen the
close, nor to a session that is over. -/
def send (w : World σ) (k : Nat) (f : Frame) (length : Nat) : Bool × World σ :=
  match w.lines[k]? with
  | none => (false, w)
  | some l =>
    if l.closing || w.gone l then (false, w)
    else
      let lines := w.lines.modify k fun l => { l with closing := l.closing || f = .close }
      (true, signal { w with lines } k (f.signal length))

/-- What a client sees when it looks for something to come, and waits no longer than `ms`. -/
def receive (w : World σ) (k ms : Nat) : Option Delivery × World σ :=
  let waiting := fun (w : World σ) => (w.lines[k]?.map (·.inbox)).getD []
  let w := waitUntil (fun w => !(waiting w).isEmpty) (w.now + ms) w
  match waiting w with
  | [] => (none, w)
  | d :: rest =>
    let inbox := if d = .ended then [.ended] else rest
    let lines := w.lines.modify k fun l => { l with inbox, closing := l.closing || d = .close }
    (some d, { w with lines })

/-- Something that came to a client, when it looked; nothing came in time where it is `none`. -/
structure Sighting where
  time : Nat
  delivery : Option Delivery

/-- What a client sees that looks again and again, at most `n` times, until a close, the end, or a
wait for nothing. -/
def drain (k ms : Nat) : Nat → World σ → List Sighting × World σ
  | 0, w => ([], w)
  | n + 1, w =>
    let (d, w) := w.receive k ms
    let seen : Sighting := ⟨w.now, d⟩
    match d with
    | some (.text _) =>
      let (more, w) := drain k ms n w
      (seen :: more, w)
    | _ => ([seen], w)

/-- More messages than anybody looks for. -/
def countless : Nat := 1000000000000

/-- What has been noted since somebody last looked. Where several sockets have been held at once,
no order is kept between them, so the events are put in the order of their texts. -/
def look (w : World σ) : List Event × World σ :=
  let text := fun (e : Event) => e.document.compact
  let events :=
    if w.crowded then w.events.mergeSort fun a b => !(text b < text a) else w.events
  (events, { w with events := [] })

end World

end PodTail
