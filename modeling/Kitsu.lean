import Kitsu.Activity.CareReward
import Kitsu.Adventure.LocationPrivacy
import Kitsu.Adventure.RouteProgress
import Kitsu.Ble.ActionRuns
import Kitsu.Ble.ActionSound
import Kitsu.Ble.Backoff
import Kitsu.Ble.Pairing
import Kitsu.Ble.SecretLifetime
import Kitsu.Clock.MeshEpoch
import Kitsu.Companion.JsonAcceptance
import Kitsu.Companion.LengthFrame
import Kitsu.Companion.RoundTrip
import Kitsu.Encounter.PendingWild
import Kitsu.Expedition.Journeys
import Kitsu.Mesh.AdvertName
import Kitsu.Mesh.Contacts
import Kitsu.Mesh.OneTimeLocation
import Kitsu.Mesh.RepeatLifecycle
import Kitsu.Mesh.Turnaround
import Kitsu.Mesh.Validators
import Kitsu.MessageRead.Exactness
import Kitsu.Mobile.Connection
import Kitsu.Mobile.WalkLedger
import Kitsu.Ota.PrefixHash
import Kitsu.Ota.Semver
import Kitsu.Party.RewardFarming
import Kitsu.Party.RewardHistory
import Kitsu.PartyModes.FinalResult
import Kitsu.PartyModes.HiddenSlot
import Kitsu.PartyModes.JoinOrder
import Kitsu.PartyModes.MissingContributions
import Kitsu.PartyModes.SpecialOutcome
import Kitsu.Presence.Consistency
import Kitsu.Presentation.Consistency
import Kitsu.Progression.Absence
import Kitsu.Replacement.Flasher
import Kitsu.Security.Revocation
import Kitsu.Storage.RetrySchedule
