import PairedContacts.Main
import PairedContacts.Server.Startup
import PairedContacts.Proofs.Text.Lines
import PairedContacts.Proofs.Text.Trimming
import PairedContacts.Proofs.Number.Decimal
import PairedContacts.Proofs.Number.Rounding
import PairedContacts.Proofs.Number.ReadBack
import PairedContacts.Proofs.Text.Capitals
import PairedContacts.Proofs.Uid
import PairedContacts.Proofs.VCard.Ending
import PairedContacts.Proofs.VCard.Footer
import PairedContacts.Proofs.VCard.Identity
import PairedContacts.Proofs.VCard.Refinalized
import PairedContacts.Proofs.VCard.Meanings
import PairedContacts.Proofs.VCard.Spelling
import PairedContacts.Proofs.VCard.Namespaces
import PairedContacts.Proofs.Cell
import PairedContacts.Proofs.Projection
import PairedContacts.Proofs.Dealings
import PairedContacts.Proofs.Database
import PairedContacts.Proofs.Contacts.MergeGroup
import PairedContacts.Proofs.Contacts.Manifest
import PairedContacts.Proofs.Contacts.Cards
import PairedContacts.Proofs.Contacts.Containment
import PairedContacts.Proofs.Contacts.Message
import PairedContacts.Proofs.Contacts.FetchPlan
import PairedContacts.Proofs.Contacts.Response
import PairedContacts.Proofs.Registration
import PairedContacts.Proofs.Settings
import PairedContacts.Proofs.Contacts.Service
import PairedContacts.Proofs.Contacts.Answer
import PairedContacts.Proofs.Contacts.Delivery
import PairedContacts.Proofs.Contacts.QueryDiscipline
import PairedContacts.Proofs.Isolation
import PairedContacts.Proofs.Replies
import PairedContacts.Proofs.Contacts.Precedence
import PairedContacts.Proofs.StoredRows
import PairedContacts.Proofs.Session.Judging
import PairedContacts.Proofs.SharedCache
import PairedContacts.Proofs.Session.Course
import PairedContacts.Proofs.Session.Reception
import PairedContacts.Proofs.Exchange
import PairedContacts.Proofs.Correspondence
import PairedContacts.Proofs.Bytes.Percent
import PairedContacts.Proofs.FilePath
import PairedContacts.Proofs.Json.Lexeme
import PairedContacts.Proofs.Json.Document
import PairedContacts.Proofs.Json.Wire
import PairedContacts.Proofs.Json.Integers
import PairedContacts.Proofs.Json.Overlong
import PairedContacts.Proofs.Bytes.Utf8
import PairedContacts.Proofs.Packet
import PairedContacts.Proofs.Contacts.Wire
import PairedContacts.Proofs.Http.Posted
import PairedContacts.Proofs.Http.Tellable
import PairedContacts.Proofs.Http.Transport
import PairedContacts.Proofs.Client.Errand
import PairedContacts.Proofs.Client.FileTree
import PairedContacts.Proofs.Client.Folder
import PairedContacts.Proofs.Client.Sync
import PairedContacts.Proofs.Client.Visits
import PairedContacts.Proofs.Client.Commit
import PairedContacts.Proofs.Contacts.Greatest
import PairedContacts.Proofs.Records
import PairedContacts.Proofs.Bytes.Base64
import PairedContacts.Proofs.Contacts.PhoneBook
import PairedContacts.Proofs.Contacts.UidList
import PairedContacts.Proofs.Contacts.PhoneNumber
import PairedContacts.Proofs.Client.ManifestFile
