import SecureStream.Client
import SecureStream.Peer.Authority
import SecureStream.Peer.Network.Patience

/-!
# A peer on this machine

One authority, one peer with a certificate of it, and clients over TLS that trust it.

* `Loopback.network`, `Loopback.expired`: the peer, which follows a script;
* `Loopback.clients`, `Loopback.new_eq`: two clients of the peer;
* `Loopback.plainNetwork`, `Loopback.plainClient`: a peer and a client that do without TLS;
* `Loopback.secured`, `Loopback.connected`: a client of either kind that has connected;
* `Loopback.bundled`, `Loopback.config`, `Loopback.made`: the network with the authority's
  certificate in a file, and the context that is made of it.
-/

namespace SecureStream.Peer.Loopback

/-- The authority, valid today. -/
def authority : Authority := ⟨"Loopback", "Loopback Root", -1, 1⟩

/-- The authority's certificate. -/
def anchor : Certificate where
  encoding := []
  issuer := authority.name
  validity := ⟨Clock.time authority.first, Clock.time authority.last⟩
  subject := authority.name
  altNames := none

/-- The certificate of the peer, with its days of validity. -/
def leaf (first last : Int) : Certificate :=
  LeafSpec.certificate ⟨"Loopback", "localhost", ["localhost"], .authority authority, first, last⟩

/-- A network with the peer, which shows some certificate. -/
def networkOf (leaf : Certificate) (script : List Entry) : Network :=
  .start ⟨[]⟩ [("localhost", Network.loopback)] ⟨443, .certified leaf, none, none, script⟩

/-- The network with a certificate that is valid today. -/
def network (script : List Entry) : Network := networkOf (leaf (-1) 1) script

/-- The network with a certificate that was valid until yesterday. -/
def expired (script : List Entry) : Network := networkOf (leaf (-2) (-1)) script

/-- A context that trusts the authority. -/
def context (policy : Policy) : Context where
  config := { Config.default with policy }
  trust := ⟨Config.defaultCaFile, [anchor], List.cons_ne_nil anchor []⟩
  library := ⟨Config.defaultPriority, none, [anchor], .peer, false⟩

/-- Where the peer is found. -/
def endpoint : Endpoint := (Endpoint.new "localhost").set (.tls true)

/-- Two clients of the peer. -/
def clients (policy : Policy) : Bool → Client := fun _ =>
  ⟨endpoint, some (context policy), endpoint.transport, none⟩

/-- A plain client. -/
def plainClient : Client :=
  ⟨Endpoint.new "localhost", none, (Endpoint.new "localhost").transport, none⟩

/-- A network with a peer that does not speak TLS. -/
def plainNetwork (script : List Entry) : Network :=
  .start ⟨[]⟩ [("localhost", Network.loopback)] ⟨80, .plain, none, none, script⟩

theorem new_eq (policy : Policy) (k : Bool) :
    Client.new endpoint (some (context policy)) = .ok (clients policy k) := rfl

/-- A client and its world after an attempt to connect. -/
def afterConnect (c : Client) (n : Network) : Client × World Network :=
  let x := c.connect Network.environment "Loopback" (.start n)
  (x.1.2, x.2)

/-- A client over TLS, and its world, after it has connected to a peer with a script. -/
def secured (script : List Entry) : Client × World Network :=
  afterConnect (clients .strict true) (network script)

/-- A plain client, and its world, after it has connected to a peer with a script. -/
def connected (script : List Entry) : Client × World Network :=
  afterConnect plainClient (plainNetwork script)

/-- The network with the authority's certificate in a file. -/
def bundled (script : List Entry) : Network :=
  { network script with files := ⟨[("ca.pem", authority.pem)]⟩ }

/-- A configuration that names the file. -/
def config : Config := { Config.default with caFile := "ca.pem" }

/-- What comes of making the context, and the world afterwards. -/
def initialised : Except SetupError Context × World Network :=
  (Context.init Network.environment config).run (.start (bundled []))

/-- The context that is made. -/
def made : Context := initialised.1.toOption.getD (context .lenient)

theorem eq_of_toBool {ε α β : Type} {x : Except ε α × β} (h : x.1.toBool = true) (default : α) :
    x = (.ok (x.1.toOption.getD default), x.2) := by
  obtain ⟨_ | a, b⟩ := x
  · exact nomatch h
  · rfl

theorem initialised_eq : initialised = (.ok made, initialised.2) :=
  eq_of_toBool (by decide +kernel) (context .lenient)

end SecureStream.Peer.Loopback
