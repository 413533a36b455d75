import Postroom.Mailet.Bounce
import Postroom.Mailet.Builtin
import Postroom.Mailet.LocalDelivery
import Postroom.Matcher.Builtin
import Postroom.Matcher.Expression

/-!
The components that a configuration may name. A catalogue knows for each name how to build the
matcher or mailet of that name; it starts out with the built-in ones, and a host adds its own before
any chain is built.
-/

namespace Postroom

/-- What components are built for. -/
structure Host where
  localDomains : List Domain := []
  /-- Where local mail goes unless a stage names a directory. -/
  mailboxes : Option MailboxStore := none

/-- Builds a matcher from its condition. -/
abbrev MatcherBuilder := Option String → Host → Except ConfigError Matcher

/-- Builds a mailet from its parameters. -/
abbrev MailetBuilder := Params → Host → Except ConfigError Mailet

structure Catalogue where
  host : Host
  matchers : Std.ExtTreeMap String MatcherBuilder
  mailets : Std.ExtTreeMap String MailetBuilder

namespace Catalogue

def empty (host : Host) : Catalogue := ⟨host, ∅, ∅⟩

/-- Add a matcher, or replace the one of that name. -/
def withMatcher (catalogue : Catalogue) (name : String) (build : MatcherBuilder) : Catalogue :=
  { catalogue with matchers := catalogue.matchers.insert name build }

/-- Add a mailet, or replace the one of that name. -/
def withMailet (catalogue : Catalogue) (name : String) (build : MailetBuilder) : Catalogue :=
  { catalogue with mailets := catalogue.mailets.insert name build }

def builtinMatchers : List (String × MatcherBuilder) :=
  [("All", fun _ _ => .ok Matcher.all),
   ("RecipientIs", fun condition _ => Matcher.recipientIsOf condition),
   ("SenderIs", fun condition _ => Matcher.senderIsOf condition),
   ("SenderIsNull", fun _ _ => .ok Matcher.senderIsNull),
   ("HostIs", fun condition _ => Matcher.hostIsOf condition),
   ("HostIsLocal", fun _ host => .ok (Matcher.hostIsLocal host.localDomains)),
   ("HasAttribute", fun condition _ => Matcher.hasAttributeOf condition),
   ("HasHeader", fun condition _ => Matcher.hasHeaderOf condition),
   ("SizeGreaterThan", fun condition _ => Matcher.sizeGreaterThanOf condition)]

def builtinMailets : List (String × MailetBuilder) :=
  [("Null", fun _ _ => .ok Mailet.null),
   ("ToProcessor", fun params _ => Mailet.toProcessorOf params),
   ("SetAttribute", fun params _ => Mailet.setAttributeOf params),
   ("RemoveAttribute", fun params _ => Mailet.removeAttributeOf params),
   ("AddHeader", fun params _ => Mailet.addHeaderOf params),
   ("LogMessage", fun params _ => .ok (Mailet.logMessageOf params)),
   ("LocalDelivery", fun params host => Mailet.localDeliveryOf params host.mailboxes),
   ("Bounce", fun params _ => Mailet.bounceOf params)]

/-- The catalogue of the built-in components. -/
def standard (host : Host) : Catalogue where
  host
  matchers := .ofList builtinMatchers
  mailets := .ofList builtinMailets

/-- Build the matcher of one atom. -/
def buildAtom (catalogue : Catalogue) : Matcher.AtomBuilder := fun name condition =>
  match catalogue.matchers[name]? with
  | none => .error (.unknownMatcher name)
  | some build => build condition catalogue.host

/-- Build the matcher of an expression. -/
def buildMatcher (catalogue : Catalogue) (spec : String) : Except ConfigError Matcher :=
  Matcher.parse spec catalogue.buildAtom

def buildMailet (catalogue : Catalogue) (params : Params) : Except ConfigError Mailet :=
  match catalogue.mailets[params.component]? with
  | none => .error (.unknownMailet params.component)
  | some build => build params catalogue.host

end Catalogue

end Postroom
