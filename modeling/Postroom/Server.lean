import Postroom.Configuration
import Postroom.Ingress
import Postroom.Spooler
import Postroom.Store.Vault

/-!
A server set up by its configuration: the chains are built first, then the store of the queue is
made ready, and last the queue recovers what the store holds.
-/

namespace Postroom

/-- Why a server could not be set up. -/
inductive SetupError where
  | chains (e : ConfigError)
  | store (e : QueueError)
  | recovery (e : QueueError)
  deriving DecidableEq

/-- What was being done when the setup failed. -/
def SetupError.message : SetupError → String
  | .chains _ => "Invalid processor configuration"
  | .store _ => "Failed to open queue store"
  | .recovery _ => "Failed to recover queue"

structure Server where
  spooler : Spooler Vault
  workers : Nat
  /-- Milliseconds that busy workers have on shutdown. -/
  timeout : Nat

/-- Make the store of a queue ready. -/
def QueueConfig.open (config : QueueConfig) (disk : Disk) : Except QueueError Vault :=
  match config with
  | .memory capacity => .ok (.memory (.empty capacity))
  | .directory home =>
      match Vault.prepare (.directory home disk) with
      | (.error e, _) => .error e
      | (.ok (), vault) => .ok vault

namespace Server

/-- Open a queue over a store, for a server that acts on a world. -/
def openQueue (vault : Vault) (ids : IdSupply) (world : World) (now : Instant) :
    Except QueueError (Spool Vault) :=
  match MailQueue.recoverFrom Vault.store now vault with
  | (.error e, _) => .error e
  | (.ok tracking, records) => .ok ⟨⟨tracking, records⟩, ids, world⟩

/-- Set a server up. `extend` adds the components of the host to the catalogue; there are
`processors` workers unless the configuration says otherwise. -/
def ofConfig (config : Configuration) (mailboxes : Option MailboxStore)
    (extend : Catalogue → Catalogue) (processors : Nat) (ids : IdSupply) (world : World)
    (now : Instant) : Except SetupError (Server × Spool Vault) := do
  let localDomains := config.localDomains.map Domain.mk
  let catalogue := extend (Catalogue.standard ⟨localDomains, mailboxes⟩)
  let registry ← (Registry.ofConfig catalogue config.chains config.states).mapError .chains
  let vault ← (config.queue.open world.disk).mapError .store
  let spool ← (openQueue vault ids world now).mapError .recovery
  let server : Server := {
    spooler := { store := Vault.store, registry, localDomains }
    workers := Spooler.poolSize (config.workers.getD processors)
    timeout := 1000 * config.shutdownSeconds }
  return (server, spool)

/-- Run the workers until they have nothing left to do, then shut down. -/
def serve (server : Server) (now : Instant) (limit : Nat) (spool : Spool Vault) :
    Except PassFault Unit × Spool Vault :=
  server.spooler.serve server.workers server.timeout now limit spool

end Server

end Postroom
