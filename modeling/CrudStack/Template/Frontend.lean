/-
# `CrudStack.Template.Frontend` — the templates of a Vue frontend

Seven files that a project has once, and the component that every class with attributes has.  The
component binds its values by attributes, so no pair of braces in it is left to the browser.
-/
import CrudStack.Template

namespace CrudStack.Template.Frontend

/-- The manifest of the package. -/
def buildDescriptor : Template := ⟨[
  .line ["\x7b"],
  .line ["  \"name\": \"", .slot "artifact_id", "-frontend\","],
  .line ["  \"version\": \"0.1.0\","],
  .line ["  \"private\": true,"],
  .line ["  \"type\": \"module\","],
  .line ["  \"scripts\": \x7b"],
  .line ["    \"dev\": \"vite\","],
  .line ["    \"build\": \"vite build\","],
  .line ["    \"preview\": \"vite preview\""],
  .line ["  \x7d,"],
  .line ["  \"dependencies\": \x7b"],
  .line ["    \"axios\": \"^1.4.0\","],
  .line ["    \"bootstrap\": \"^5.3.0\","],
  .line ["    \"vue\": \"^3.3.4\","],
  .line ["    \"vue-router\": \"^4.2.0\""],
  .line ["  \x7d,"],
  .line ["  \"devDependencies\": \x7b"],
  .line ["    \"@vitejs/plugin-vue\": \"^4.2.3\","],
  .line ["    \"vite\": \"^4.0.0\""],
  .line ["  \x7d"],
  .line ["\x7d"]]⟩

/-- The page that hosts the application. -/
def hostPage : Template := ⟨[
  .line ["<!DOCTYPE html>"],
  .line ["<html lang=\"en\">"],
  .line ["  <head>"],
  .line ["    <meta charset=\"UTF-8\">"],
  .line ["    <meta name=\"viewport\" content=\"width=device-width,", " initial-scale=1.0\">"],
  .line ["    <title>", .slot "title", "</title>"],
  .line ["    <link rel=\"stylesheet\"",
    " href=\"https://cdn.jsdelivr.net/npm/bootstrap@5.3.0/dist/css/bootstrap.min.css\">"],
  .line ["  </head>"],
  .line ["  <body>"],
  .line ["    <div id=\"app\"></div>"],
  .line ["    <script type=\"module\" src=\"/src/main.js\"></script>"],
  .line ["  </body>"],
  .line ["</html>"]]⟩

/-- The configuration of the bundler. -/
def bundlerConfig : Template := ⟨[
  .line ["import \x7b defineConfig \x7d from 'vite';"],
  .line ["import vue from '@vitejs/plugin-vue';"],
  .line [],
  .line ["export default defineConfig(\x7b"],
  .line ["  plugins: [vue()],"],
  .line ["  server: \x7b"],
  .line ["    port: ", .slot "dev_port", ","],
  .line ["  \x7d,"],
  .line ["\x7d);"]]⟩

/-- The variables that the bundler passes to the application. -/
def runtimeConfig : Template := ⟨[
  .line ["VITE_APP_TITLE=", .slot "title"],
  .line ["VITE_API_BASE_URL=", .slot "api_base_url"]]⟩

/-- The shell of the application, with one link per component. -/
def shell : Template := ⟨[
  .line ["<template>"],
  .line ["  <div class=\"container mt-5\">"],
  .line ["    <h1>", .slot "title", "</h1>"],
  .line ["    <nav class=\"mb-4\">"],
  .each "classes" [
    .line ["      <router-link class=\"me-3\" to=\"/", .slot "route_segment", "\">",
      .slot "plural_label", "</router-link>"]],
  .line ["    </nav>"],
  .line ["    <router-view></router-view>"],
  .line ["  </div>"],
  .line ["</template>"],
  .line [],
  .line ["<script>"],
  .line ["export default \x7b"],
  .line ["  name: 'App',"],
  .line ["\x7d;"],
  .line ["</script>"]]⟩

/-- The script that mounts shell and router. -/
def bootstrap : Template := ⟨[
  .line ["import \x7b createApp \x7d from 'vue';"],
  .line ["import App from './App.vue';"],
  .line ["import router from './router';"],
  .line [],
  .line ["createApp(App).use(router).mount('#app');"]]⟩

/-- The routes of the application, one per component. -/
def router : Template := ⟨[
  .line ["import \x7b createRouter, createWebHistory \x7d from 'vue-router';"],
  .line [],
  .line ["const routes = ["],
  .each "classes" [
    .line ["  \x7b"],
    .line ["    path: '/", .slot "route_segment", "',"],
    .line ["    name: '", .slot "class_name", "',"],
    .line ["    component: () => import('./components/", .slot "component_name", ".vue'),"],
    .line ["  \x7d,"]],
  .line ["];"],
  .line [],
  .line ["export default createRouter(\x7b"],
  .line ["  history: createWebHistory(),"],
  .line ["  routes,"],
  .line ["\x7d);"]]⟩

/-- The form and the list of a class. -/
def component : Template := ⟨[
  .line ["<template>"],
  .line ["  <div class=\"container mt-4\">"],
  .line ["    <h2>", .slot "class_name", "</h2>"],
  .line ["    <form @submit.prevent=\"submitForm\">"],
  .each "fields" [
    .line ["      <div class=\"mb-3\">"],
    .line ["        <label for=\"", .slot "name", "\" class=\"form-label\">", .slot "label",
      "</label>"],
    .cond "is_checkbox" [
      .line ["        <input type=\"checkbox\" class=\"form-check-input\" id=\"", .slot "name",
        "\" v-model=\"formData.", .slot "name", "\">"]] [
      .line ["        <input type=\"", .slot "input_type", "\" class=\"form-control\" id=\"",
        .slot "name", "\" v-model", .slot "model_modifier", "=\"formData.", .slot "name", "\">"]],
    .line ["      </div>"]],
  .line ["      <button type=\"submit\" class=\"btn btn-primary\" v-text=\"editingId",
    " === null ? 'Create' : 'Update'\"></button>"],
  .line ["      <button v-if=\"editingId !== null\" type=\"button\" class=\"btn",
    " btn-secondary ms-2\" @click=\"resetForm\">Cancel</button>"],
  .line ["    </form>"],
  .line [],
  .line ["    <h3 class=\"mt-5\">", .slot "plural_label", "</h3>"],
  .line ["    <table class=\"table table-striped\">"],
  .line ["      <thead>"],
  .line ["        <tr>"],
  .line ["          <th>ID</th>"],
  .each "fields" [
    .line ["          <th>", .slot "label", "</th>"]],
  .line ["          <th>Actions</th>"],
  .line ["        </tr>"],
  .line ["      </thead>"],
  .line ["      <tbody>"],
  .line ["        <tr v-for=\"item in items\" :key=\"item.id\">"],
  .line ["          <td v-text=\"item.id\"></td>"],
  .each "fields" [
    .line ["          <td v-text=\"item.", .slot "name", "\"></td>"]],
  .line ["          <td>"],
  .line ["            <button class=\"btn btn-warning me-2\"",
    " @click=\"editItem(item.id)\">Edit</button>"],
  .line ["            <button class=\"btn btn-danger\"",
    " @click=\"deleteItem(item.id)\">Delete</button>"],
  .line ["          </td>"],
  .line ["        </tr>"],
  .line ["      </tbody>"],
  .line ["    </table>"],
  .line ["  </div>"],
  .line ["</template>"],
  .line [],
  .line ["<script>"],
  .line ["import axios from 'axios';"],
  .line [],
  .line ["const API_BASE = import.meta.env.VITE_API_BASE_URL || '", .slot "api_base_url", "';"],
  .line ["const RESOURCE_URL = `$\x7bAPI_BASE\x7d/", .slot "route_segment", "`;"],
  .line [],
  .line ["const emptyForm = () => (", .slot "empty_form", ");"],
  .line [],
  .line ["export default \x7b"],
  .line ["  name: '", .slot "component_name", "',"],
  .line ["  data() \x7b"],
  .line ["    return \x7b"],
  .line ["      formData: emptyForm(),"],
  .line ["      items: [],"],
  .line ["      editingId: null,"],
  .line ["    \x7d;"],
  .line ["  \x7d,"],
  .line ["  methods: \x7b"],
  .line ["    async fetchItems() \x7b"],
  .line ["      try \x7b"],
  .line ["        const response = await axios.get(RESOURCE_URL);"],
  .line ["        this.items = response.data;"],
  .line ["      \x7d catch (error) \x7b"],
  .line ["        console.error('Failed to load ", .slot "plural_label", "', error);"],
  .line ["      \x7d"],
  .line ["    \x7d,"],
  .line ["    async submitForm() \x7b"],
  .line ["      try \x7b"],
  .line ["        if (this.editingId === null) \x7b"],
  .line ["          await axios.post(RESOURCE_URL, this.formData);"],
  .line ["        \x7d else \x7b"],
  .line ["          await axios.put(`$\x7bRESOURCE_URL\x7d/$\x7bthis.editingId\x7d`,",
    " this.formData);"],
  .line ["        \x7d"],
  .line ["        this.resetForm();"],
  .line ["        await this.fetchItems();"],
  .line ["      \x7d catch (error) \x7b"],
  .line ["        console.error('Failed to save ", .slot "class_name", "', error);"],
  .line ["      \x7d"],
  .line ["    \x7d,"],
  .line ["    async editItem(id) \x7b"],
  .line ["      try \x7b"],
  .line ["        const response = await", " axios.get(`$\x7bRESOURCE_URL\x7d/$\x7bid\x7d`);"],
  .line ["        this.formData = \x7b ...response.data \x7d;"],
  .line ["        this.editingId = id;"],
  .line ["      \x7d catch (error) \x7b"],
  .line ["        console.error('Failed to load ", .slot "class_name", "', error);"],
  .line ["      \x7d"],
  .line ["    \x7d,"],
  .line ["    async deleteItem(id) \x7b"],
  .line ["      try \x7b"],
  .line ["        await axios.delete(`$\x7bRESOURCE_URL\x7d/$\x7bid\x7d`);"],
  .line ["        if (this.editingId === id) \x7b"],
  .line ["          this.resetForm();"],
  .line ["        \x7d"],
  .line ["        await this.fetchItems();"],
  .line ["      \x7d catch (error) \x7b"],
  .line ["        console.error('Failed to delete ", .slot "class_name", "', error);"],
  .line ["      \x7d"],
  .line ["    \x7d,"],
  .line ["    resetForm() \x7b"],
  .line ["      this.formData = emptyForm();"],
  .line ["      this.editingId = null;"],
  .line ["    \x7d,"],
  .line ["  \x7d,"],
  .line ["  created() \x7b"],
  .line ["    this.fetchItems();"],
  .line ["  \x7d,"],
  .line ["\x7d;"],
  .line ["</script>"]]⟩

end CrudStack.Template.Frontend
