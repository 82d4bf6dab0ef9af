import ChatClient.Library.Decimal
import ChatClient.TCPRuns
import ChatClient.UDPRuns

/-! What happens before the event loop: `Parser::parse` assigns one option after
the other, `Config::Validate` looks at the result, and the constructor of
`StreamHandler` picks the handler.

The options are the sequence `getopt` delivers. `atoi` is a parameter that is
exact on the decimal numerals an `int` can hold; `Decimal.atoi` is such a
function. -/

namespace ChatClient

/-! ## Options, configuration and handler -/

/-- What the program prints before the event loop runs. -/
inductive Printed where
  | cout (line : Bytes)
  | cerr (line : Bytes)
  deriving DecidableEq, Repr

/-- `EXIT_SUCCESS` and `EXIT_FAILURE`. -/
inductive ExitStatus where
  | success | failure
  deriving DecidableEq, Repr

/-- What a call before the event loop comes to: what it printed, and what it
returned unless it ended the process. -/
structure Ended (α : Type) where
  printed : List Printed := []
  value : Except ExitStatus α
  deriving Repr

/-- `exit(EXIT_FAILURE)` behind a line on `cerr`. -/
def Ended.failure {α : Type} (line : Bytes) : Ended α :=
  { printed := [.cerr line], value := .error .failure }

/-- An option as `getopt` delivers it: the letter it returns, `'?'` for an option
it does not know, and what `optarg` points to. -/
structure Getopt where
  letter : Char
  optarg : Bytes := []
  deriving DecidableEq, Repr

/-- `Config`, with the values of its default constructor. -/
structure Config where
  protocol : Bytes := []
  serverIp : Bytes := []
  serverPort : UInt16 := 4567
  udpConfirmationTimeout : UInt16 := 250
  maxUdpRetransmissions : UInt8 := 3
  deriving DecidableEq, Repr

/-- What the event loop is started with: one of the two handlers. -/
inductive StartedLoop where
  | tcp (loop : StreamHandler TCPClient)
  | udp (loop : StreamHandler UDPProtocolHandler)

/-- `print_help`. -/
def printHelp {α : Type} (program : Bytes) : Ended α where
  printed := [.cout (text "Usage: " ++ program ++ text " [options]\n"),
    .cout (text "Options:\n"),
    .cout (text "  -t <protocol>          Protocol to use (tcp or udp)\n"),
    .cout (text "  -s <server_ip>         Server IP address\n"),
    .cout (text "  -p <server_port>       Server port number               Default: 4567\n"),
    .cout (text "  -d <timeout>           UDP confirmation timeout         Default: 250\n"),
    .cout (text "  -r <retransmissions>   Maximum UDP retransmissions      Default: 3\n")]
  value := .error .success

namespace Parser

variable (atoi : Bytes → Int) (program : Bytes)

/-- The `switch` of `Parser::parse`. -/
def assign (option : Getopt) (config : Config) : Ended Config :=
  match option.letter with
  | 't' => { value := .ok { config with protocol := option.optarg } }
  | 's' => { value := .ok { config with serverIp := option.optarg } }
  | 'p' => { value := .ok { config with serverPort := .ofInt (atoi option.optarg) } }
  | 'd' => { value := .ok { config with udpConfirmationTimeout := .ofInt (atoi option.optarg) } }
  | 'r' => { value := .ok { config with maxUdpRetransmissions := .ofInt (atoi option.optarg) } }
  | 'h' => printHelp program
  | _ => .failure (text "Usage: " ++ program ++ text " [options]\n")

/-- `Parser::parse`: the options one after the other. -/
def parse : List Getopt → Config → Ended Config
  | [], config => { value := .ok config }
  | option :: options, config =>
    match (assign atoi program option config).value with
    | .ok config => parse options config
    | .error _ => assign atoi program option config

end Parser

namespace Config

/-- `Config::Validate`. Without a protocol it complains and goes on, where its
other two complaints end the process. -/
def validate (config : Config) : Ended Unit :=
  let complaint : Ended Unit :=
    if config.protocol ≠ text "tcp" ∧ config.protocol ≠ text "udp" then
      if config.protocol = [] then
        { printed := [.cerr (text "Protocol is required\n")], value := .ok () }
      else .failure (text "Invalid protocol provided " ++ config.protocol ++ text "\n")
    else { value := .ok () }
  match complaint.value with
  | .error _ => complaint
  | .ok () =>
    if config.serverIp = [] then
      { printed := complaint.printed ++ [.cerr (text "Server IP is required\n")]
        value := .error .failure }
    else complaint

/-- The constructor of `StreamHandler`, as `main` calls it: another protocol
leaves `protocolHandler` null. The confirmation timeout only sets how long `poll`
waits, which the loop leaves to the environment. -/
def streamHandler (config : Config) (serverAddress : SockAddr) : Option StartedLoop :=
  if config.protocol = text "tcp" then
    some (.tcp (.start {} config.maxUdpRetransmissions))
  else if config.protocol = text "udp" then
    some (.udp (.start (.create serverAddress) config.maxUdpRetransmissions))
  else none

end Config

/-! ## What parse and validate leave behind -/

open Decimal

/-- The argument of the last option with a letter. -/
def lastArgument (letter : Char) (options : List Getopt) : Option Bytes :=
  (options.filterMap fun option =>
    if option.letter = letter then some option.optarg else none).getLast?

section
variable {atoi : Bytes → Int} {program : Bytes} {options : List Getopt} {option : Getopt}
  {config after : Config} {letter : Char} {argument : Bytes}

private theorem lastArgument_cons :
    lastArgument letter (option :: options) = (lastArgument letter options).or
      (if option.letter = letter then some option.optarg else none) := by
  unfold lastArgument
  by_cases same : option.letter = letter
  · simp only [if_pos same, List.filterMap_cons, List.getLast?_cons]
    cases (options.filterMap _).getLast? <;> rfl
  · simp only [if_neg same, List.filterMap_cons, Option.or_none]

/-- What one option does: each field is set by its own letter and by no other. -/
structure Assigned (atoi : Bytes → Int) (option : Getopt) (config after : Config) : Prop where
  protocol : after.protocol = if option.letter = 't' then option.optarg else config.protocol
  serverIp : after.serverIp = if option.letter = 's' then option.optarg else config.serverIp
  serverPort : after.serverPort =
    if option.letter = 'p' then .ofInt (atoi option.optarg) else config.serverPort
  timeout : after.udpConfirmationTimeout =
    if option.letter = 'd' then .ofInt (atoi option.optarg) else config.udpConfirmationTimeout
  retransmissions : after.maxUdpRetransmissions =
    if option.letter = 'r' then .ofInt (atoi option.optarg) else config.maxUdpRetransmissions

private theorem assigned_of_assign
    (returned : (Parser.assign atoi program option config).value = .ok after) :
    Assigned atoi option config after := by
  obtain ⟨letter, optarg⟩ := option
  unfold Parser.assign at returned
  split at returned
  iterate 5
    · rename_i same
      change letter = _ at same
      subst same
      cases returned
      constructor <;> simp
  · cases returned
  · cases returned

/-- Each field ends as its last option gives it, or as it was. -/
theorem read_of_parse {β : Type} (letter : Char) (read : Config → β) (decode : Bytes → β)
    (sets : ∀ option config after, Assigned atoi option config after →
      read after = if option.letter = letter then decode option.optarg else read config)
    (returned : (Parser.parse atoi program options config).value = .ok after) :
    read after = ((lastArgument letter options).map decode).getD (read config) := by
  induction options generalizing config with
  | nil =>
    cases returned
    rfl
  | cons option options ih =>
    unfold Parser.parse at returned
    cases assigned : (Parser.assign atoi program option config).value with
    | error status =>
      simp only [assigned] at returned
      cases returned
    | ok next =>
      simp only [assigned] at returned
      rw [ih returned, lastArgument_cons, sets _ _ _ (assigned_of_assign assigned)]
      cases lastArgument letter options with
      | some argument => rfl
      | none =>
        by_cases same : option.letter = letter
        · simp [if_pos same]
        · simp [if_neg same]

/-- `Config::Validate` returns for the two protocols, and for none at all. -/
theorem validate_returns_iff :
    config.validate.value = .ok () ↔ config.serverIp ≠ [] ∧
      (config.protocol = text "tcp" ∨ config.protocol = text "udp" ∨ config.protocol = []) := by
  unfold Config.validate
  by_cases tcp : config.protocol = text "tcp"
  · by_cases server : config.serverIp = [] <;> simp [tcp, server]
  · by_cases udp : config.protocol = text "udp"
    · by_cases server : config.serverIp = [] <;> simp [udp, server]
    · by_cases missing : config.protocol = []
      · have none : ([] : Bytes) ≠ text "tcp" ∧ ([] : Bytes) ≠ text "udp" := by decide
        by_cases server : config.serverIp = [] <;> simp [missing, none, server]
      · simp [tcp, udp, missing, Ended.failure]

private theorem streamHandler_isSome_iff {serverAddress : SockAddr} :
    (config.streamHandler serverAddress).isSome = true ↔
      config.protocol = text "tcp" ∨ config.protocol = text "udp" := by
  unfold Config.streamHandler
  by_cases tcp : config.protocol = text "tcp"
  · simp [tcp]
  · rw [if_neg tcp]
    by_cases udp : config.protocol = text "udp" <;> simp [tcp, udp]

/-- What the constructor makes is where the runs of either client begin. -/
theorem runs_of_streamHandler {serverAddress : SockAddr} {started : StartedLoop}
    (made : config.streamHandler serverAddress = some started) :
    match started with
    | .tcp loop => TCPRun config.maxUdpRetransmissions [] loop
    | .udp loop => UDPRun serverAddress config.maxUdpRetransmissions [] loop := by
  unfold Config.streamHandler at made
  split at made
  · cases made
    exact .start
  · split at made
    · cases made
      exact .start
    · cases made

/-! ## Sound start-ups -/

/-- What is relied on: a numeral in the range of `int` is read exactly. -/
def AtoiExact (atoi : Bytes → Int) : Prop :=
  ∀ argument n, Numeral argument n → -2147483648 ≤ n → n ≤ 2147483647 → atoi argument = n

private theorem atoi_exact : AtoiExact Decimal.atoi :=
  fun _ _ numeral _ _ => atoi_of_numeral numeral

/-- A numeric field is what the last option with its letter says, or its default. -/
def NumberOf (letter : Char) (default : Nat) (options : List Getopt) (field : Nat) : Prop :=
  match lastArgument letter options with
  | some argument => Numeral argument field
  | none => field = default

/-- What `main` counts on once `Parser::parse` and `Config::Validate` have returned. -/
structure SoundStart (options : List Getopt) (config : Config) : Prop where
  protocol : config.protocol = text "tcp" ∨ config.protocol = text "udp"
  handler : ∀ serverAddress, (config.streamHandler serverAddress).isSome = true
  server : config.serverIp ≠ []
  port : NumberOf 'p' 4567 options config.serverPort.toNat
  timeout : NumberOf 'd' 250 options config.udpConfirmationTimeout.toNat
  retransmissions : NumberOf 'r' 3 options config.maxUdpRetransmissions.toNat

/-- The last option with a letter has a numeral below `bound`, if there is one. -/
def NumeralBelow (letter : Char) (bound : Nat) (options : List Getopt) : Prop :=
  ∀ argument, lastArgument letter options = some argument → ∃ n : Nat, n < bound ∧ Numeral argument n

/-- The options a sound start-up takes: a protocol is named, and every number
fits its field. -/
structure Fitting (options : List Getopt) : Prop where
  named : ∃ protocol, lastArgument 't' options = some protocol ∧ protocol ≠ []
  port : NumeralBelow 'p' 65536 options
  timeout : NumeralBelow 'd' 65536 options
  retransmissions : NumeralBelow 'r' 256 options

private theorem uint16_ofInt_of_lt {n : Nat} (fits : n < 65536) : (UInt16.ofInt n).toNat = n := by
  simp only [UInt16.ofInt, UInt16.toNat_ofNat']
  omega

private theorem uint8_ofInt_of_lt {n : Nat} (fits : n < 256) : (UInt8.ofInt n).toNat = n := by
  simp only [UInt8.ofInt, UInt8.toNat_ofNat']
  omega

private theorem named_iff (returned : (Parser.parse atoi program options {}).value = .ok config)
    (valid : config.validate.value = .ok ()) :
    (config.protocol = text "tcp" ∨ config.protocol = text "udp") ↔
      ∃ protocol, lastArgument 't' options = some protocol ∧ protocol ≠ [] := by
  have read : config.protocol = ((lastArgument 't' options).map id).getD [] :=
    read_of_parse 't' Config.protocol id (fun _ _ _ set => set.protocol) returned
  obtain ⟨-, known⟩ := validate_returns_iff.mp valid
  have unnamed : (config.protocol = text "tcp" ∨ config.protocol = text "udp") ↔
      config.protocol ≠ [] := by
    constructor
    · rintro (tcp | udp)
      · rw [tcp]; decide
      · rw [udp]; decide
    · intro present
      rcases known with tcp | udp | missing
      · exact .inl tcp
      · exact .inr udp
      · exact absurd missing present
  rw [unnamed, read]
  cases lastArgument 't' options <;> simp

/-- A numeral that fits is the number of its field, and no other argument gives
one. The field is read from the configuration, `narrow` is the cast it is set with. -/
theorem numberOf_iff {bound : Nat} (field : Config → Nat) (narrow : Int → Nat)
    (exact : AtoiExact atoi) (small : bound ≤ 65536) (fits : field config < bound)
    (keeps : ∀ n : Nat, n < bound → narrow n = n)
    (sets : ∀ option before next, Assigned atoi option before next →
      field next = if option.letter = letter then narrow (atoi option.optarg) else field before)
    (returned : (Parser.parse atoi program options {}).value = .ok config) :
    NumberOf letter (field {}) options (field config) ↔ NumeralBelow letter bound options := by
  have read := read_of_parse letter field (fun argument => narrow (atoi argument)) sets returned
  unfold NumberOf NumeralBelow
  cases last : lastArgument letter options with
  | none =>
    rw [last] at read
    constructor
    · rintro - argument ⟨⟩
    · exact fun _ => read
  | some argument =>
    rw [last] at read
    change field config = narrow (atoi argument) at read
    constructor
    · rintro numeral _ ⟨⟩
      exact ⟨field config, fits, numeral⟩
    · intro below
      obtain ⟨n, bounded, numeral⟩ := below argument rfl
      have value : atoi argument = n := exact argument n numeral (by omega) (by omega)
      have same : field config = n := by rw [read, value, keeps n bounded]
      exact same ▸ numeral

/-- **Start-up validation.** When parse and validate return, the start-up is
sound exactly for the options that name a protocol and whose numbers fit. -/
theorem soundStart_iff (exact : AtoiExact atoi)
    (returned : (Parser.parse atoi program options {}).value = .ok config)
    (valid : config.validate.value = .ok ()) :
    SoundStart options config ↔ Fitting options := by
  have named := named_iff returned valid
  have port : NumberOf 'p' 4567 options config.serverPort.toNat ↔ NumeralBelow 'p' 65536 options :=
    numberOf_iff (fun config => config.serverPort.toNat) (fun n => (UInt16.ofInt n).toNat)
      exact (Nat.le_refl _) (UInt16.toNat_lt _) (fun _ => uint16_ofInt_of_lt)
      (fun _ _ _ set => by rw [set.serverPort]; split <;> rfl) returned
  have timeout : NumberOf 'd' 250 options config.udpConfirmationTimeout.toNat ↔
      NumeralBelow 'd' 65536 options :=
    numberOf_iff (fun config => config.udpConfirmationTimeout.toNat)
      (fun n => (UInt16.ofInt n).toNat)
      exact (Nat.le_refl _) (UInt16.toNat_lt _) (fun _ => uint16_ofInt_of_lt)
      (fun _ _ _ set => by rw [set.timeout]; split <;> rfl) returned
  have retransmissions : NumberOf 'r' 3 options config.maxUdpRetransmissions.toNat ↔
      NumeralBelow 'r' 256 options :=
    numberOf_iff (fun config => config.maxUdpRetransmissions.toNat) (fun n => (UInt8.ofInt n).toNat)
      exact (by decide) (UInt8.toNat_lt _) (fun _ => uint8_ofInt_of_lt)
      (fun _ _ _ set => by rw [set.retransmissions]; split <;> rfl) returned
  constructor
  · intro sound
    exact ⟨named.mp sound.protocol, port.mp sound.port, timeout.mp sound.timeout,
      retransmissions.mp sound.retransmissions⟩
  · intro fitting
    have protocol := named.mpr fitting.named
    exact ⟨protocol, fun _ => streamHandler_isSome_iff.mpr protocol,
      (validate_returns_iff.mp valid).1, port.mpr fitting.port, timeout.mpr fitting.timeout,
      retransmissions.mpr fitting.retransmissions⟩

end

/-- A start-up over UDP on another port is sound. -/
theorem soundStart_iff_udp : ∃ config,
    (Parser.parse atoi (text "client") [⟨'t', text "udp"⟩, ⟨'p', text "1"⟩, ⟨'s', text "localhost"⟩,
      ⟨'p', text "10000"⟩] {}).value = .ok config ∧
    config.validate.value = .ok () ∧ config.serverPort = 10000 ∧
    SoundStart [⟨'t', text "udp"⟩, ⟨'p', text "1"⟩, ⟨'s', text "localhost"⟩,
      ⟨'p', text "10000"⟩] config := by
  have returned : (Parser.parse atoi (text "client") [⟨'t', text "udp"⟩, ⟨'p', text "1"⟩,
    ⟨'s', text "localhost"⟩, ⟨'p', text "10000"⟩] {}).value = .ok _ := rfl
  refine ⟨_, returned, rfl, rfl, (soundStart_iff atoi_exact returned rfl).mpr ?_⟩
  have numeral : Numeral (text "10000") 10000 :=
    @Numeral.plain [] (text "10000") (by simp) (List.cons_ne_nil _ _) (List.all_eq_true.mp rfl)
  refine ⟨⟨text "udp", rfl, by decide⟩, ?_, ?_, ?_⟩
  · rintro argument ⟨⟩
    exact ⟨10000, by decide, numeral⟩
  · rintro argument ⟨⟩
  · rintro argument ⟨⟩

/-- Without `-t` both checks return and there is no handler, and port 65537
becomes port 1. -/
theorem startup_unsound : ∃ missing reduced,
    (Parser.parse atoi (text "client") [⟨'s', text "localhost"⟩] {}).value = .ok missing ∧
    missing.validate.value = .ok () ∧
    (∀ serverAddress, missing.streamHandler serverAddress = none) ∧
    ¬ SoundStart [⟨'s', text "localhost"⟩] missing ∧
    (Parser.parse atoi (text "client") [⟨'t', text "tcp"⟩, ⟨'s', text "localhost"⟩,
      ⟨'p', text "65537"⟩] {}).value = .ok reduced ∧
    reduced.validate.value = .ok () ∧ reduced.serverPort = 1 ∧
    ¬ SoundStart [⟨'t', text "tcp"⟩, ⟨'s', text "localhost"⟩, ⟨'p', text "65537"⟩] reduced := by
  refine ⟨_, _, rfl, rfl, fun _ => rfl, ?_, rfl, rfl, rfl, ?_⟩
  · intro sound
    exact absurd sound.protocol (by decide)
  · intro sound
    have numeral : Numeral (text "65537") 1 := sound.port
    exact absurd (atoi_exact _ _ numeral (by decide) (by decide)) (by decide)

end ChatClient
