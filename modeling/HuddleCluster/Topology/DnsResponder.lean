import HuddleCluster.Lib.Dns
import HuddleCluster.Topology.Services

set_option autoImplicit false

namespace HuddleCluster.Topology

open Dns (Bytes Extends Holds Label Many Message Name Parses Question Resource word)
open Master (NodeRecord)

structure Ipv4 where
  b3 : UInt8
  b2 : UInt8
  b1 : UInt8
  b0 : UInt8
deriving DecidableEq

def Ipv4.bytes (ip : Ipv4) : Bytes := [ip.b3, ip.b2, ip.b1, ip.b0]

-- Which texts are addresses is for inet_aton to say, and how str.lower changes one is
-- left open too.
structure DnsSettings extends Settings where
  dnsDomain : String := "cluster.local"
  lower : String → String
  inetAton : String → Option Ipv4

-- The pointer is to the name of the question. A, IN, ten seconds, four bytes.
def answer (ip : Ipv4) : Bytes :=
  0xc0 :: 0x0c :: 0 :: 1 :: 0 :: 1 :: 0 :: 0 :: 0 :: 10 :: 0 :: 4 :: ip.bytes

def packShort (number : Nat) : Bytes := [UInt8.ofNat (number / 256), UInt8.ofNat (number % 256)]

def packResponse (query : Bytes) (ips : List Ipv4) : Bytes :=
  query.take 2 ++ [0x84, 0] ++ (packShort 1 ++ packShort ips.length ++ packShort 0 ++ packShort 0) ++ query.drop 12 ++
    ips.flatMap answer

-- struct.pack refuses a count of more than two bytes, and inet_aton raises where
-- there is no address.
def buildDnsResponse (inetAton : String → Option Ipv4) (query : Bytes) (ipAddresses : List String) : Option Bytes :=
  if 65535 < ipAddresses.length then none
  else (ipAddresses.mapM inetAton).map fun ips => packResponse query ips

def decodeAscii (bytes : Bytes) : Option String :=
  if bytes.all fun byte => decide (byte.toNat < 128) then some (String.ofList (bytes.map fun byte => Char.ofNat byte.toNat))
  else none

-- A pointer in the name is read as a long label. A slice ends where the data ends.
def labelsFrom : Nat → Bytes → Option (List String)
  | 0, _ => some []
  | _ + 1, [] => some []
  | fuel + 1, size :: rest =>
      if size.toNat = 0 then some []
      else do
        let label ← decodeAscii (rest.take size.toNat)
        let others ← labelsFrom fuel (rest.drop size.toNat)
        return label :: others

def datagramLimit : Nat := 65507

namespace DnsSettings

def isValidIpv4 (cfg : DnsSettings) (address : String) : Bool := (cfg.inetAton address).isSome

def serviceIn (cfg : DnsSettings) (qname : String) : Option String :=
  let suffix := (cfg.lower ("." ++ cfg.dnsDomain)).toList
  let name := qname.toList
  if suffix <:+ name then some (String.ofList (name.take (name.length - suffix.length))) else none

def serviceAsked (cfg : DnsSettings) (data : Bytes) : Option String := do
  let qnameParts ← labelsFrom data.length (data.drop 12)
  cfg.serviceIn (cfg.lower (".".intercalate qnameParts))

-- What is sent, if anything. A datagram has no room for more than the limit.
def respond (cfg : DnsSettings) (data : Bytes) (ips : List String) : Option Bytes :=
  if ips.isEmpty then none
  else do
    let response ← buildDnsResponse cfg.inetAton data ips
    if datagramLimit < response.length then none else return response

end DnsSettings

namespace ServiceDiscovery

def addressesFor (cfg : DnsSettings) (s : ServiceDiscovery) (service : String) : List String :=
  ((s.aliveNodesFor cfg.toSettings service).map NodeRecord.address).filter cfg.isValidIpv4

-- Whatever fails on the way ends in the handler's except.
def handleDnsQuery (cfg : DnsSettings) (s : ServiceDiscovery) (data : Bytes) : Option Bytes := do
  let service ← cfg.serviceAsked data
  cfg.respond data (s.addressesFor cfg service)

end ServiceDiscovery

theorem pack_short (number : Nat) (small : number ≤ 65535) :
    word (UInt8.ofNat (number / 256)) (UInt8.ofNat (number % 256)) = number := by
  have high : (UInt8.ofNat (number / 256)).toNat = number / 256 :=
    UInt8.toNat_ofNat_of_lt' (Nat.div_lt_of_lt_mul (by change _ < 256 * 256; omega))
  have low : (UInt8.ofNat (number % 256)).toNat = number % 256 := UInt8.toNat_ofNat_of_lt' (Nat.mod_lt _ (by decide))
  rw [word, high, low]
  omega

theorem answers_length (ips : List Ipv4) : (ips.flatMap answer).length = 16 * ips.length := by
  induction ips with
  | nil => rfl
  | cons ip ips ih =>
      rw [List.flatMap_cons, List.length_append, ih, List.length_cons]
      simp only [answer, Ipv4.bytes, List.length_cons, List.length_nil]
      omega

theorem addresses_packed (inetAton : String → Option Ipv4) (addresses : List String) :
    (addresses.filter fun address => (inetAton address).isSome).mapM inetAton = some (addresses.filterMap inetAton) := by
  induction addresses with
  | nil => rfl
  | cons address rest ih =>
      cases packed : inetAton address with
      | none => simp [packed, ih]
      | some ip => simp [packed, ih]

theorem addresses_kept (inetAton : String → Option Ipv4) (addresses : List String) :
    (addresses.filter fun address => (inetAton address).isSome).length = (addresses.filterMap inetAton).length := by
  induction addresses with
  | nil => rfl
  | cons address rest ih =>
      cases packed : inetAton address with
      | none => simp [packed, ih]
      | some ip => simp [packed, ih]

def ipsFor (cfg : DnsSettings) (s : ServiceDiscovery) (data : Bytes) : List Ipv4 :=
  match cfg.serviceAsked data with
  | none => []
  | some service => ((s.aliveNodesFor cfg.toSettings service).map NodeRecord.address).filterMap cfg.inetAton

-- Nothing is sent where the name is no service of the domain, where no alive node of
-- the service has an address, and where there are too many of them.
def Unanswered (cfg : DnsSettings) (s : ServiceDiscovery) (data : Bytes) : Prop :=
  ipsFor cfg s data = [] ∨ datagramLimit < data.length + 16 * (ipsFor cfg s data).length

theorem packed_length (data : Bytes) (ips : List Ipv4) (headed : 12 ≤ data.length) :
    (packResponse data ips).length = data.length + 16 * ips.length := by
  simp only [packResponse, packShort, List.length_append, List.length_take, List.length_drop, List.length_cons, List.length_nil,
    answers_length]
  omega

theorem responded (cfg : DnsSettings) (data response : Bytes) (addresses : List String) (headed : 12 ≤ data.length) :
    cfg.respond data (addresses.filter cfg.isValidIpv4) = some response ↔
      ¬ (addresses.filterMap cfg.inetAton = [] ∨ datagramLimit < data.length + 16 * (addresses.filterMap cfg.inetAton).length) ∧
        response = packResponse data (addresses.filterMap cfg.inetAton) := by
  have packed : (addresses.filter cfg.isValidIpv4).mapM cfg.inetAton = _ := addresses_packed cfg.inetAton addresses
  have kept : (addresses.filter cfg.isValidIpv4).length = _ := addresses_kept cfg.inetAton addresses
  have wide := packed_length data (addresses.filterMap cfg.inetAton) headed
  rw [DnsSettings.respond, buildDnsResponse, kept, packed]
  by_cases unpacked : addresses.filterMap cfg.inetAton = []
  · have empty : addresses.filter cfg.isValidIpv4 = [] := List.length_eq_zero_iff.mp (by rw [kept, unpacked, List.length_nil])
    simp [unpacked, empty]
  · have nonempty : (addresses.filter cfg.isValidIpv4).isEmpty = false := by
      rw [List.isEmpty_eq_false_iff]
      intro empty
      rw [empty] at kept
      exact unpacked (List.length_eq_zero_iff.mp kept.symm)
    by_cases big : 65535 < (addresses.filterMap cfg.inetAton).length
    · have crowded : datagramLimit < data.length + 16 * (addresses.filterMap cfg.inetAton).length := by
        rw [datagramLimit]
        omega
      simp [nonempty, big, crowded]
    · by_cases crowded : datagramLimit < data.length + 16 * (addresses.filterMap cfg.inetAton).length
      · simp [nonempty, big, wide, crowded]
      · simp [nonempty, big, wide, crowded, unpacked, eq_comm]

theorem dns_handled (cfg : DnsSettings) (s : ServiceDiscovery) (data response : Bytes) (headed : 12 ≤ data.length) :
    s.handleDnsQuery cfg data = some response ↔ ¬ Unanswered cfg s data ∧ response = packResponse data (ipsFor cfg s data) := by
  rw [ServiceDiscovery.handleDnsQuery, Unanswered, ipsFor]
  cases cfg.serviceAsked data with
  | none => simp
  | some service => exact responded cfg data response _ headed

def aRecord (name : List Label) (ip : Ipv4) : Resource := ⟨name, 1, 1, 10, ip.bytes⟩

theorem packed_bytes (data body : Bytes) (header : Dns.Header) (read : Dns.header? data = some (header, body)) (ips : List Ipv4) :
    ∃ i1 i0 front, front.length = 10 ∧ data = i1 :: i0 :: (front ++ body) ∧ header.id = word i1 i0 ∧
      packResponse data ips = i1 :: i0 :: 0x84 :: 0 :: 0 :: 1 :: UInt8.ofNat (ips.length / 256) :: UInt8.ofNat (ips.length % 256) ::
        0 :: 0 :: 0 :: 0 :: (body ++ ips.flatMap answer) := by
  obtain ⟨i1, i0, front, ten, rfl, same⟩ := Dns.header_bytes data body header read
  refine ⟨i1, i0, front, ten, rfl, same, ?_⟩
  have rest : (i1 :: i0 :: (front ++ body)).drop 12 = body := by
    simp only [List.drop_succ_cons]
    rw [← ten, List.drop_left]
  rw [packResponse, rest]
  simp [packShort]

theorem packed_header (data body : Bytes) (header : Dns.Header) (read : Dns.header? data = some (header, body)) (ips : List Ipv4)
    (small : ips.length ≤ 65535) : Dns.header? (packResponse data ips) =
      some (⟨header.id, 0x8400, 1, ips.length, 0, 0⟩, body ++ ips.flatMap answer) := by
  obtain ⟨i1, i0, front, ten, _, same, packed⟩ := packed_bytes data body header read ips
  rw [packed, Dns.header?, pack_short ips.length small, same]
  rfl

theorem packed_extends (data body : Bytes) (header : Dns.Header) (read : Dns.header? data = some (header, body)) (ips : List Ipv4) :
    Extends data (ips.flatMap answer) (packResponse data ips) := by
  obtain ⟨i1, i0, front, ten, whole, _, packed⟩ := packed_bytes data body header read ips
  intro offset after inside
  obtain ⟨more, rfl⟩ : ∃ more, offset = more + 12 := ⟨offset - 12, by rw [Dns.headerLength] at after; omega⟩
  have left : data.drop (more + 12) = body.drop more := by
    rw [whole, Nat.add_comm, ← List.drop_drop]
    simp only [List.drop_succ_cons]
    rw [← ten, List.drop_left]
  have room : more ≤ body.length := by
    rw [whole] at inside
    simp only [List.length_cons, List.length_append] at inside
    omega
  rw [left, packed]
  simp only [List.drop_succ_cons]
  exact List.drop_append_of_le_length room

theorem answers_held (message : Bytes) (name : List Label) (unread : Bytes) (named : Name message (message.drop 12) name unread)
    (short : Dns.nameLength name ≤ 255) (ips : List Ipv4) (room : (ips.flatMap answer).length < (message.drop 12).length) :
    Many (Holds message) (ips.flatMap answer) (ips.map (aRecord name)) [] := by
  induction ips with
  | nil => exact .nil []
  | cons ip ips ih =>
      rw [answers_length] at room ih
      have earlier : (ips.flatMap answer).length + 16 < (message.drop 12).length := by
        rw [answers_length]
        rw [List.length_cons] at room
        omega
      refine .cons _ (ips.flatMap answer) _ _ _ ?_ (ih (by rw [List.length_cons] at room; omega))
      refine .resource name 0 1 0 1 0 0 0 10 0 4 ip.bytes _ ?_ short rfl
      exact .pointer 0xc0 0x0c _ name unread (by decide) (by decide) earlier named

-- The response as a message: one A record for each address, owned by the name that was
-- asked for.
def WellFormed (query : Message) (question : Question) (ips : List Ipv4) (response : Bytes) : Prop :=
  ∃ message, Parses response message ∧ message.id = query.id ∧ message.questions = [question] ∧
    List.Forall₂ (fun ip record => record.name = question.name ∧ record.rtype = 1 ∧ record.rclass = 1 ∧ record.rdata = ip.bytes)
      ips message.answers

section Responses

variable (data : Bytes) (query : Message) (question : Question) (parsed : Parses data query) (single : query.questions = [question])
  (ips : List Ipv4) (small : ips.length ≤ 65535)
include parsed single small

theorem packed_read : ∃ body rest, Dns.header? (packResponse data ips) = some (⟨query.id, 0x8400, 1, ips.length, 0, 0⟩, body) ∧
    Dns.Asks (packResponse data ips) body question rest ∧
      Many (Holds (packResponse data ips)) rest (query.records ++ ips.map (aRecord question.name)) [] := by
  obtain ⟨body, rest, read, asked, held⟩ := Dns.parsed_records data query parsed
  have header := packed_header data body query.header read ips small
  rw [single] at asked
  have longer := packed_extends data body query.header read ips
  have asks := Dns.asks_extends longer body question rest (Dns.many_one body rest question asked)
  refine ⟨body ++ ips.flatMap answer, rest ++ ips.flatMap answer, header, asks, ?_⟩
  have records := Dns.many_mono (ips.flatMap answer) (Dns.holds_extends longer) rest [] query.records held
  refine Dns.many_append _ _ _ _ _ records ?_
  obtain ⟨name, t1, t0, c1, c0, _, named, short⟩ := asks
  have place : (packResponse data ips).drop 12 = body ++ ips.flatMap answer := Dns.header_drop _ _ _ header
  have room := Dns.name_shorter _ _ _ _ named
  rw [← place] at named room
  simp only [List.length_cons, List.length_append] at room
  exact answers_held _ name _ named short ips (by omega)

theorem packed_well_formed (alone : query.records = []) : WellFormed query question ips (packResponse data ips) := by
  obtain ⟨body, rest, header, asks, held⟩ := packed_read data query question parsed single ips small
  rw [alone, List.nil_append] at held
  refine ⟨⟨query.id, 0x8400, [question], ips.map (aRecord question.name), [], []⟩, ?_, rfl, rfl, ?_⟩
  · refine ⟨body, rest, [], [], ?_, .cons _ _ _ _ _ asks (.nil rest), held, .nil [], .nil []⟩
    rw [header, Message.header, List.length_map]
    rfl
  · rw [List.forall₂_map_right_iff]
    exact List.forall₂_same.mpr fun ip _ => ⟨rfl, rfl, rfl, rfl⟩

-- The header counts no more records than there are answers, so whatever followed the
-- question would be left over.
theorem well_formed_alone (formed : WellFormed query question ips (packResponse data ips)) : query.records = [] := by
  obtain ⟨body, rest, header, asks, held⟩ := packed_read data query question parsed single ips small
  obtain ⟨message, reparsed, _, same, _⟩ := formed
  obtain ⟨body', rest', header', asked, records⟩ := Dns.parsed_records _ message reparsed
  rw [header] at header'
  obtain ⟨counts, rfl⟩ := Prod.mk.inj (Option.some.inj header')
  rw [same] at asked
  obtain ⟨_, rfl⟩ := Dns.asks_unique _ _ _ _ _ _ asks (Dns.many_one _ _ _ asked)
  have counted : message.records.length = ips.length := by
    simp only [Message.header, Dns.Header.mk.injEq] at counts
    rw [Message.records, List.length_append, List.length_append, ← counts.2.2.2.1, ← counts.2.2.2.2.1, ← counts.2.2.2.2.2]
    rfl
  obtain ⟨more, split, remaining⟩ := Dns.many_prefix (Dns.holds_unique (packResponse data ips)) _ [] [] _ _ records held
    (by rw [counted, List.length_append, List.length_map]; omega)
  have sizes := congrArg List.length split
  rw [Dns.many_nothing _ _ more remaining, List.append_nil, List.length_append, List.length_map, counted] at sizes
  exact List.length_eq_zero_iff.mp (by omega)

end Responses

-- A response is sent to a query for a service of the domain, whatever is asked about it
-- and whatever follows the question, and it is well formed exactly if nothing does.
theorem dns_well_formed (cfg : DnsSettings) (s : ServiceDiscovery) (data : Bytes) (query : Message) (question : Question)
    (parsed : Parses data query) (single : query.questions = [question]) :
    (∀ response ∈ s.handleDnsQuery cfg data,
      WellFormed query question (ipsFor cfg s data) response ∧ question.qtype = 1 ∧ question.qclass = 1) ↔
        Unanswered cfg s data ∨ (query.records = [] ∧ question.qtype = 1 ∧ question.qclass = 1) := by
  obtain ⟨body, _, header, _, _⟩ := Dns.parsed_records data query parsed
  obtain ⟨i1, i0, front, ten, whole, _⟩ := Dns.header_bytes data body query.header header
  have headed : 12 ≤ data.length := by
    rw [whole]
    simp only [List.length_cons, List.length_append]
    omega
  by_cases unanswered : Unanswered cfg s data
  · refine iff_of_true ?_ (Or.inl unanswered)
    intro response sent
    exact absurd unanswered ((dns_handled cfg s data response headed).mp sent).1
  · have small : (ipsFor cfg s data).length ≤ 65535 := by
      simp only [Unanswered, datagramLimit, not_or, not_lt] at unanswered
      omega
    have sent := (dns_handled cfg s data _ headed).mpr ⟨unanswered, rfl⟩
    simp only [sent, Option.mem_def, Option.some.injEq, forall_eq', unanswered, false_or]
    refine and_congr_left' ⟨?_, ?_⟩
    · exact well_formed_alone data query question parsed single _ small
    · exact packed_well_formed data query question parsed single _ small

def serving : ServiceDiscovery :=
  ((ServiceDiscovery.start .empty).update lowerCase (joined "a" [("services", .arr [.str "api"])])).refresh lowerCase

def plainDns : DnsSettings :=
  { lowerCase with
    lower := id
    inetAton := fun address => if address = "10.0.0.1" then some ⟨10, 0, 0, 1⟩ else none }

def apiName : List Label := [[97, 112, 105], [99, 108, 117, 115, 116, 101, 114], [108, 111, 99, 97, 108]]

def apiQuery (arcount : UInt8) (more : Bytes) : Bytes :=
  [1, 2, 1, 0, 0, 1, 0, 0, 0, 0, 0, arcount] ++ (Dns.written apiName ++ 0 :: 1 :: 0 :: 1 :: more)

def apiQuestion : Question := ⟨apiName, 1, 1⟩

theorem api_parses (arcount : UInt8) (more : Bytes) (additional : List Resource) (counted : additional.length = arcount.toNat)
    (added : Many (Holds (apiQuery arcount more)) more additional []) :
    Parses (apiQuery arcount more) ⟨258, 256, [apiQuestion], [], [], additional⟩ := by
  have named := Dns.name_written (apiQuery arcount more) apiName (by decide) (0 :: 1 :: 0 :: 1 :: more)
  refine ⟨_, more, more, more, ?_, .cons _ _ _ _ _ (.question apiName 0 1 0 1 more named (by decide)) (.nil more),
    .nil more, .nil more, added⟩
  rw [Message.header, counted]
  have low : word 0 arcount = arcount.toNat := by simp [word]
  rw [← low]
  rfl

theorem dns_well_formed_plain : ∃ response ∈ serving.handleDnsQuery plainDns (apiQuery 0 []),
    WellFormed ⟨258, 256, [apiQuestion], [], [], []⟩ apiQuestion [⟨10, 0, 0, 1⟩] response := by
  have sent : serving.handleDnsQuery plainDns (apiQuery 0 []) = some (packResponse (apiQuery 0 []) [⟨10, 0, 0, 1⟩]) := by
    decide +kernel
  have asked : ipsFor plainDns serving (apiQuery 0 []) = [⟨10, 0, 0, 1⟩] := by decide +kernel
  have holds := (dns_well_formed plainDns serving (apiQuery 0 []) ⟨258, 256, [apiQuestion], [], [], []⟩ apiQuestion
    (api_parses 0 [] [] rfl (.nil [])) rfl).mpr (Or.inr ⟨rfl, rfl, rfl⟩)
  rw [asked] at holds
  exact ⟨_, sent, (holds _ sent).1⟩

-- An OPT record of no options, for answers of up to 4096 bytes.
def optRecord : Resource := ⟨[], 41, 4096, 0, []⟩

def optBytes : Bytes := [0, 0, 41, 16, 0, 0, 0, 0, 0, 0, 0]

theorem opt_holds (message : Bytes) : Holds message optBytes optRecord [] :=
  .resource [] 0 41 16 0 0 0 0 0 0 0 [] [] (.root _) (by decide) rfl

-- The record is copied in front of the answer, and the header counts only one of them.
theorem dns_options_copied : Parses (apiQuery 1 optBytes) ⟨258, 256, [apiQuestion], [], [], [optRecord]⟩ ∧
    ∃ response ∈ serving.handleDnsQuery plainDns (apiQuery 1 optBytes),
      ¬ WellFormed ⟨258, 256, [apiQuestion], [], [], [optRecord]⟩ apiQuestion (ipsFor plainDns serving (apiQuery 1 optBytes))
        response := by
  have parsed := api_parses 1 optBytes [optRecord] rfl (.cons _ [] _ _ _ (opt_holds _) (.nil []))
  refine ⟨parsed, packResponse (apiQuery 1 optBytes) [⟨10, 0, 0, 1⟩], by decide +kernel, ?_⟩
  have asked : ipsFor plainDns serving (apiQuery 1 optBytes) = [⟨10, 0, 0, 1⟩] := by decide +kernel
  rw [asked]
  intro formed
  have alone := well_formed_alone _ _ apiQuestion parsed rfl _ (by decide) formed
  cases alone

end HuddleCluster.Topology
