import SparSomnong.Semantics.Run
import SparSomnong.Semantics.Held
import SparSomnong.Semantics.Endless
import SparSomnong.Semantics.Simulation
import SparSomnong.Semantics.Async
import SparSomnong.Semantics.BehaviorSubject
import SparSomnong.Semantics.Tally
import SparSomnong.Semantics.KeyedLog
import SparSomnong.Semantics.Pages
import SparSomnong.Semantics.Rows
import SparSomnong.Semantics.Reflected
import SparSomnong.Semantics.Separated
import SparSomnong.Semantics.Utf16
import SparSomnong.Semantics.Regex
import SparSomnong.Semantics.PercentEncoding
import SparSomnong.Semantics.Value
import SparSomnong.Semantics.Schema
import SparSomnong.Semantics.Tree
import SparSomnong.Localisation.LanguageConfig
import SparSomnong.Routing.Navigators
import SparSomnong.Startup.Splash
import SparSomnong.Session.Users
import SparSomnong.Session.Snapshot
import SparSomnong.Session.Badges
import SparSomnong.Session.RecentChats
import SparSomnong.Session.ChatListener
import SparSomnong.Session.Logout
import SparSomnong.Session.Token
import SparSomnong.Session.GoogleSignIn
import SparSomnong.Session.ResendCountdown
import SparSomnong.Session.PhoneNumber
import SparSomnong.Session.BusyFlags
import SparSomnong.Session.EditProfile
import SparSomnong.Session.SignUpForm
import SparSomnong.Session.EmailAddress
import SparSomnong.Session.Images
import SparSomnong.Catalogue.ProductLists
import SparSomnong.Catalogue.CategoryGrid
import SparSomnong.Catalogue.Categories
import SparSomnong.Catalogue.Refresh
import SparSomnong.Catalogue.Search
import SparSomnong.Catalogue.SearchConnectivity
import SparSomnong.Catalogue.SearchUrl
import SparSomnong.Catalogue.Prices
import SparSomnong.Catalogue.Quantities
import SparSomnong.Favourites.Screen
import SparSomnong.Favourites.Paging
import SparSomnong.Models.Records
import SparSomnong.Models.Decoding
import SparSomnong.Models.Pages
import SparSomnong.Models.Cards
import SparSomnong.Chat.Database
import SparSomnong.Chat.Sending
import SparSomnong.Chat.Recorder
import SparSomnong.Chat.AudioPlayer
import SparSomnong.Chat.Widget
import SparSomnong.Chat.Room
import SparSomnong.Chat.Keyed
import SparSomnong.Chat.Lane
import SparSomnong.Chat.Sourced
import SparSomnong.Chat.Isolation
import SparSomnong.Chat.Handover
import SparSomnong.Chat.Delivery
import SparSomnong.Chat.ScrollBack
import SparSomnong.Chat.Network
import SparSomnong.Chat.Summary
import SparSomnong.Chat.ReadMarker
import SparSomnong.Chat.ChatCard
import SparSomnong.Chat.History
import SparSomnong.Chat.Replicas
import SparSomnong.Chat.Conservation
import SparSomnong.Chat.Storage
import SparSomnong.Chat.UserChats
import SparSomnong.Chat.Receipts
import SparSomnong.Chat.Rest
import SparSomnong.Chat.Overtaking
import SparSomnong.Chat.Punctuality
import SparSomnong.Navigation.Screens
import SparSomnong.Navigation.Hosting
import SparSomnong.Navigation.ProductChat
import SparSomnong.Navigation.ChatKeys
import SparSomnong.Navigation.ChatCreation
